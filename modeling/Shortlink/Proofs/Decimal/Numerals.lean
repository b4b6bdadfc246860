import Shortlink.Decimal.Numeral

/-!
# Numerals and their numbers

A numeral is made of one digit or more, and of a sign in front of them perhaps.  What can
be read as a number are the numerals of all numbers within the limit, however many zeros
they start with, and nothing else.
-/

namespace Shortlink

theorem exceptMap_eq_ok_iff {ε α β : Type} {f : α → β} {result : Except ε α} {value : β} :
    result.map f = .ok value ↔ ∃ found, result = .ok found ∧ f found = value := by
  cases result <;> simp [Except.map]

theorem exceptBind_eq_ok_iff {ε α β : Type} {result : Except ε α} {next : α → Except ε β}
    {value : β} :
    result >>= next = .ok value ↔ ∃ first, result = .ok first ∧ next first = .ok value := by
  cases result with
  | error failure =>
      constructor
      · exact nofun
      · rintro ⟨first, failed, -⟩
        contradiction
  | ok first =>
      constructor
      · exact fun found => ⟨first, rfl, found⟩
      · rintro ⟨other, same, found⟩
        rwa [← Except.ok.inj same] at found

namespace Decimal

/-- Digits spell a number. -/
structure Spells (digits : List Char) (number : Nat) : Prop where
  ne_nil : digits ≠ []
  all_isDigit : ∀ digit ∈ digits, digit.isDigit
  /-- The number is that of the digits. -/
  ofDigitChars_eq : Nat.ofDigitChars 10 digits 0 = number

/-- A text is the numeral of a natural number. -/
def Denotes (text : String) (number : Nat) : Prop :=
  ∃ digits, (text.toList = digits ∨ text.toList = '+' :: digits) ∧ Spells digits number

/-- A text is the numeral of an integer. -/
def DenotesInt (text : String) (number : Int) : Prop :=
  (∃ magnitude : Nat, Denotes text magnitude ∧ number = magnitude) ∨
    ∃ (digits : List Char) (magnitude : Nat),
      text.toList = '-' :: digits ∧ Spells digits magnitude ∧ number = -magnitude

theorem Spells.exists_cons {digits : List Char} {number : Nat} (spells : Spells digits number) :
    ∃ first rest, digits = first :: rest ∧ first.isDigit := by
  obtain ⟨first, rest, rfl⟩ := List.exists_cons_of_ne_nil spells.ne_nil
  exact ⟨first, rest, rfl, spells.all_isDigit first List.mem_cons_self⟩

/-! ## Digits -/

theorem digitValue?_eq_some_iff {character : Char} {value : Nat} :
    digitValue? character = some value ↔
      character.isDigit ∧ character.toNat - '0'.toNat = value := by
  have isDigit : ('0' ≤ character ∧ character ≤ '9') ↔ character.isDigit := by
    rw [Char.isDigit_iff_toNat]
    rfl
  simp only [digitValue?, isDigit, Option.ite_none_right_eq_some, Option.some.injEq]

theorem le_ofDigitChars (digits : List Char) (value : Nat) :
    value ≤ Nat.ofDigitChars 10 digits value := by
  rw [Nat.ofDigitChars_eq_ofDigitChars_zero]
  exact Nat.le_add_right_of_le (Nat.le_mul_of_pos_left value (Nat.pow_pos (Nat.zero_lt_succ 9)))

theorem readDigits_eq_ok_iff {limit value number : Nat} {overflow : NumeralError}
    {digits : List Char} (small : value ≤ limit) :
    readDigits limit overflow value digits = .ok number ↔
      (∀ digit ∈ digits, digit.isDigit) ∧ Nat.ofDigitChars 10 digits value = number ∧
        number ≤ limit := by
  induction digits generalizing value with
  | nil =>
      rw [readDigits, Except.ok.injEq, Nat.ofDigitChars_nil]
      constructor
      · rintro rfl
        exact ⟨nofun, rfl, small⟩
      · exact fun ⟨_, same, _⟩ => same
  | cons digit rest ih =>
      rw [readDigits, List.forall_mem_cons, Nat.ofDigitChars_cons, Nat.mul_comm 10]
      cases found : digitValue? digit with
      | none =>
          have noDigit : ¬digit.isDigit := fun isDigit => by
            rw [digitValue?_eq_some_iff.mpr ⟨isDigit, rfl⟩] at found
            contradiction
          simp [noDigit]
      | some worth =>
          obtain ⟨isDigit, rfl⟩ := digitValue?_eq_some_iff.mp found
          dsimp only
          split
          · rename_i fits
            rw [ih fits]
            simp [isDigit]
          · rename_i tooLarge
            -- What follows only makes the number larger.
            have grown := le_ofDigitChars rest (value * 10 + (digit.toNat - '0'.toNat))
            constructor
            · exact nofun
            · rintro ⟨-, rfl, within⟩
              exact absurd (Nat.le_trans grown within) tooLarge

theorem readMagnitude_eq_ok_iff {limit number : Nat} {overflow : NumeralError}
    {digits : List Char} :
    readMagnitude limit overflow digits = .ok number ↔ Spells digits number ∧ number ≤ limit := by
  rw [readMagnitude]
  split
  · rename_i empty
    rw [List.isEmpty_iff.mp empty]
    exact ⟨nofun, fun ⟨spells, _⟩ => absurd rfl spells.ne_nil⟩
  · rename_i nonempty
    rw [readDigits_eq_ok_iff (Nat.zero_le limit)]
    constructor
    · rintro ⟨all, value, within⟩
      exact ⟨⟨fun empty => nonempty (List.isEmpty_iff.mpr empty), all, value⟩, within⟩
    · rintro ⟨⟨-, all, value⟩, within⟩
      exact ⟨all, value, within⟩

/-! ## Signs -/

theorem denotes_iff {text : String} {number : Nat} :
    Denotes text number ↔ Spells (withoutPlus text.toList) number := by
  constructor
  · rintro ⟨digits, same | same, spells⟩
    · obtain ⟨first, rest, rfl, isDigit⟩ := spells.exists_cons
      rw [same, withoutPlus]
      · exact spells
      · rintro digits ⟨⟩
        contradiction
    · rwa [same, withoutPlus]
  · intro spells
    unfold withoutPlus at spells
    split at spells
    · rename_i digits same
      exact ⟨digits, .inr same, spells⟩
    · exact ⟨_, .inl rfl, spells⟩

/-- A number is denoted by what it is shown as. -/
theorem denotes_toString (number : Nat) : Denotes (toString number) number := by
  have digits : (toString number).toList = Nat.toDigits 10 number := Nat.toList_repr
  refine ⟨Nat.toDigits 10 number, .inl digits, Nat.toDigits_ne_nil, ?_, ?_⟩
  · exact fun digit member => Nat.isDigit_of_mem_toDigits (by decide) (by decide) member
  · exact Nat.ofDigitChars_ten_toDigits

theorem not_denotes_of_minus {text : String} {digits : List Char}
    (minus : text.toList = '-' :: digits) (number : Nat) : ¬Denotes text number := by
  rw [denotes_iff, minus, withoutPlus]
  · intro spells
    exact absurd (spells.all_isDigit '-' List.mem_cons_self) (by decide)
  · rintro _ ⟨⟩

theorem readUnsigned_eq {text : String} (nonempty : text.toList ≠ []) :
    readUnsigned text = (readMagnitude (UInt64.size - 1) .tooLarge
      (withoutPlus text.toList)).map UInt64.ofNat := by
  unfold readUnsigned
  split
  · contradiction
  · rfl

/-- The numerals of all numbers of 64 bits can be read, and nothing else. -/
theorem readUnsigned_eq_ok_iff {text : String} {number : UInt64} :
    readUnsigned text = .ok number ↔ Denotes text number.toNat := by
  rw [denotes_iff]
  by_cases empty : text.toList = []
  · rw [readUnsigned, empty]
    exact ⟨nofun, fun spells => absurd rfl spells.ne_nil⟩
  · rw [readUnsigned_eq empty]
    constructor
    · intro read
      obtain ⟨magnitude, found, rfl⟩ := exceptMap_eq_ok_iff.mp read
      obtain ⟨spells, within⟩ := readMagnitude_eq_ok_iff.mp found
      rwa [UInt64.toNat_ofNat_of_lt' (Nat.lt_of_le_pred (by decide) within)]
    · intro spells
      have within := Nat.le_pred_of_lt number.toNat_lt_size
      exact exceptMap_eq_ok_iff.mpr
        ⟨_, readMagnitude_eq_ok_iff.mpr ⟨spells, within⟩, UInt64.ofNat_toNat⟩

theorem readSigned_of_minus {text : String} {digits : List Char}
    (minus : text.toList = '-' :: digits) :
    readSigned text = (readMagnitude (UInt64.size / 2) .tooSmall digits).map
      fun magnitude : Nat => -(magnitude : Int) := by
  unfold readSigned
  split
  · rename_i empty
    rw [empty] at minus
    contradiction
  · rename_i others same
    obtain rfl := (List.cons.inj (minus.symm.trans same)).2
    cases readMagnitude (UInt64.size / 2) .tooSmall digits <;> rfl
  · rename_i plain
    exact absurd minus (plain digits)

theorem readSigned_of_not_minus {text : String} (nonempty : text.toList ≠ [])
    (plain : ∀ digits, text.toList ≠ '-' :: digits) :
    readSigned text = (readMagnitude (UInt64.size / 2 - 1) .tooLarge
      (withoutPlus text.toList)).map fun magnitude : Nat => (magnitude : Int) := by
  unfold readSigned
  split
  · contradiction
  · rename_i digits minus
    exact absurd minus (plain digits)
  · rfl

/-- The numerals of all numbers of 64 bits and a sign can be read, and nothing else. -/
theorem readSigned_eq_ok_iff {text : String} {number : Int} :
    readSigned text = .ok number ↔
      DenotesInt text number ∧ -0x8000000000000000 ≤ number ∧ number < 0x8000000000000000 := by
  by_cases minus : ∃ digits, text.toList = '-' :: digits
  · obtain ⟨digits, same⟩ := minus
    rw [readSigned_of_minus same, exceptMap_eq_ok_iff]
    constructor
    · rintro ⟨magnitude, found, rfl⟩
      obtain ⟨spells, within⟩ := readMagnitude_eq_ok_iff.mp found
      have bounded : magnitude ≤ 2 ^ 63 := within
      exact ⟨.inr ⟨digits, magnitude, same, spells, rfl⟩, by omega, by omega⟩
    · rintro ⟨⟨magnitude, denotes, -⟩ | ⟨others, magnitude, alike, spells, rfl⟩, least, -⟩
      · exact absurd denotes (not_denotes_of_minus same magnitude)
      · obtain rfl := (List.cons.inj (same.symm.trans alike)).2
        have bounded : magnitude ≤ 2 ^ 63 := by omega
        exact ⟨magnitude, readMagnitude_eq_ok_iff.mpr ⟨spells, bounded⟩, rfl⟩
  · have plain (digits) : text.toList ≠ '-' :: digits := fun same => minus ⟨digits, same⟩
    by_cases empty : text.toList = []
    · rw [readSigned, empty]
      refine ⟨nofun, ?_⟩
      rintro ⟨⟨magnitude, denotes, -⟩ | ⟨digits, magnitude, same, -⟩, -⟩
      · rw [denotes_iff, empty] at denotes
        exact absurd rfl denotes.ne_nil
      · exact absurd same (plain digits)
    · rw [readSigned_of_not_minus empty plain, exceptMap_eq_ok_iff]
      constructor
      · rintro ⟨magnitude, found, rfl⟩
        obtain ⟨spells, within⟩ := readMagnitude_eq_ok_iff.mp found
        have bounded : magnitude ≤ 2 ^ 63 - 1 := within
        exact ⟨.inl ⟨magnitude, denotes_iff.mpr spells, rfl⟩, by omega, by omega⟩
      · rintro ⟨⟨magnitude, denotes, rfl⟩ | ⟨digits, magnitude, same, -⟩, -, most⟩
        · have bounded : magnitude ≤ 2 ^ 63 - 1 := by omega
          exact ⟨magnitude, readMagnitude_eq_ok_iff.mpr ⟨denotes_iff.mp denotes, bounded⟩, rfl⟩
        · exact absurd same (plain digits)

end Decimal

end Shortlink
