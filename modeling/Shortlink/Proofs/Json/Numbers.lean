import Shortlink.Json.Number
import Shortlink.Proofs.Json.Grammar

/-!
# Skipping numbers

A number is skipped as far as it goes.  So what is skipped is a number, and a number
is skipped whole unless something follows that could be a part of it.
-/

namespace Shortlink.Json

/-! ## Digits -/

theorem isDigit_iff {byte : UInt8} : isDigit byte = true ↔ 0x30 ≤ byte ∧ byte ≤ 0x39 := by
  rw [isDigit, Bool.and_eq_true, decide_eq_true_eq, decide_eq_true_eq]

/-- A digit is none of the bytes that are no digits. -/
theorem ne_of_isDigit {first other : UInt8} (digit : isDigit first = true)
    (noDigit : isDigit other = false) : first ≠ other := by
  rintro rfl
  rw [digit] at noDigit
  contradiction

theorem isExponentMark_iff {byte : UInt8} :
    isExponentMark byte = true ↔ byte ∈ [0x65, 0x45] := by
  simp [isExponentMark]

/-- Bytes that do not continue digits in front of them. -/
def EndsDigits (rest : List UInt8) : Prop :=
  ∀ byte ∈ rest.head?, isDigit byte = false

/-- Bytes that do not continue a number in front of them. -/
def EndsNumber (rest : List UInt8) : Prop :=
  ∀ byte ∈ rest.head?, isDigit byte = false ∧ isExponentMark byte = false ∧ byte ≠ 0x2E

theorem EndsNumber.endsDigits {rest : List UInt8} (ends : EndsNumber rest) : EndsDigits rest :=
  fun byte first => (ends byte first).1

theorem endsNumber_cons {byte : UInt8} {rest : List UInt8} (noDigit : isDigit byte = false)
    (noMark : isExponentMark byte = false) (noPoint : byte ≠ 0x2E) :
    EndsNumber (byte :: rest) := by
  intro first found
  obtain rfl := Option.some.inj found
  exact ⟨noDigit, noMark, noPoint⟩

theorem IsDigits.exists_cons {digits : List UInt8} (isDigits : IsDigits digits) :
    ∃ first others, digits = first :: others ∧ isDigit first = true ∧
      ∀ byte ∈ others, isDigit byte = true := by
  obtain ⟨some, each⟩ := isDigits
  cases digits with
  | nil => contradiction
  | cons first others =>
      refine ⟨first, others, rfl, isDigit_iff.mpr (each first List.mem_cons_self), ?_⟩
      exact fun byte member => isDigit_iff.mpr (each byte (List.mem_cons_of_mem first member))

theorem isDigits_cons {first : UInt8} {others : List UInt8} (firstDigit : isDigit first = true)
    (otherDigits : ∀ byte ∈ others, isDigit byte = true) : IsDigits (first :: others) := by
  refine ⟨List.cons_ne_nil first others, ?_⟩
  intro byte member
  rcases List.mem_cons.mp member with rfl | later
  · exact isDigit_iff.mp firstDigit
  · exact isDigit_iff.mp (otherDigits byte later)

theorem skipDigits_append {digits rest : List UInt8} (each : ∀ byte ∈ digits, isDigit byte = true)
    (ends : EndsDigits rest) : skipDigits (digits ++ rest) = rest := by
  rw [skipDigits, List.dropWhile_append_of_pos each]
  cases rest with
  | nil => rfl
  | cons byte tail => exact List.dropWhile_cons_of_neg (by simp [ends byte rfl])

theorem exists_digits (bytes : List UInt8) :
    ∃ digits, (∀ byte ∈ digits, isDigit byte = true) ∧ bytes = digits ++ skipDigits bytes :=
  ⟨bytes.takeWhile isDigit, fun byte member => List.all_eq_true.mp List.all_takeWhile byte member,
    List.takeWhile_append_dropWhile.symm⟩

/-! ## Exponents -/

theorem exists_of_skipExponent {bytes rest : List UInt8} (skipped : skipExponent bytes = .ok rest) :
    ∃ sign digits, sign ∈ [[], [0x2B], [0x2D]] ∧ IsDigits digits ∧
      bytes = sign ++ (digits ++ rest) := by
  have signed : ∃ sign, sign ∈ [[], [0x2B], [0x2D]] ∧ bytes = sign ++
      if bytes.head? == some 0x2B || bytes.head? == some 0x2D then bytes.tail else bytes := by
    split
    · rename_i signed
      cases bytes with
      | nil => contradiction
      | cons sign tail => exact ⟨[sign], by simpa using signed, rfl⟩
    · exact ⟨[], List.mem_cons_self, rfl⟩
  obtain ⟨sign, isSign, whole⟩ := signed
  unfold skipExponent at skipped
  dsimp only at skipped
  split at skipped
  · contradiction
  rename_i first tail unsigned
  rw [unsigned] at whole
  split at skipped
  · rename_i firstDigit
    obtain rfl := Except.ok.inj skipped
    obtain ⟨others, each, left⟩ := exists_digits tail
    refine ⟨sign, first :: others, isSign, isDigits_cons firstDigit each, ?_⟩
    rw [whole, List.cons_append, ← left]
  · contradiction

theorem skipExponent_append {sign digits rest : List UInt8}
    (isSign : sign ∈ [[], [0x2B], [0x2D]]) (isDigits : IsDigits digits) (ends : EndsDigits rest) :
    skipExponent (sign ++ (digits ++ rest)) = .ok rest := by
  obtain ⟨first, others, rfl, firstDigit, each⟩ := isDigits.exists_cons
  have skipped := skipDigits_append each ends
  have noPlus : first ≠ 0x2B := ne_of_isDigit firstDigit rfl
  have noMinus : first ≠ 0x2D := ne_of_isDigit firstDigit rfl
  simp only [List.mem_cons, List.not_mem_nil, or_false] at isSign
  rcases isSign with rfl | rfl | rfl
  · simp [skipExponent, noPlus, noMinus, firstDigit, skipped]
  · simp [skipExponent, firstDigit, skipped]
  · simp [skipExponent, firstDigit, skipped]

theorem exists_exponent_of_skip {bytes rest : List UInt8}
    (skipped : skipExponentIfAny bytes = .ok rest) :
    ∃ exponent, IsExponent exponent ∧ bytes = exponent ++ rest := by
  unfold skipExponentIfAny at skipped
  split at skipped
  · obtain rfl := Except.ok.inj skipped
    exact ⟨[], .none, rfl⟩
  rename_i mark tail
  split at skipped
  · rename_i isMark
    obtain ⟨sign, digits, isSign, isDigits, rfl⟩ := exists_of_skipExponent skipped
    refine ⟨_, .some (isExponentMark_iff.mp isMark) isSign isDigits, ?_⟩
    rw [List.cons_append, List.append_assoc]
  · obtain rfl := Except.ok.inj skipped
    exact ⟨[], .none, rfl⟩

theorem skipExponentIfAny_append {exponent rest : List UInt8} (isExponent : IsExponent exponent)
    (ends : EndsNumber rest) : skipExponentIfAny (exponent ++ rest) = .ok rest := by
  cases isExponent with
  | none =>
      cases rest with
      | nil => rfl
      | cons byte tail =>
          have noMark := (ends byte rfl).2.1
          simp [skipExponentIfAny, noMark]
  | some isMark isSign isDigits =>
      rw [List.cons_append, List.append_assoc, skipExponentIfAny,
        if_pos (isExponentMark_iff.mpr isMark)]
      exact skipExponent_append isSign isDigits ends.endsDigits

/-! ## What follows an integer -/

theorem exists_fraction_of_skip {bytes rest : List UInt8}
    (skipped : skipAfterInteger bytes = .ok rest) :
    ∃ fraction exponent, IsFraction fraction ∧ IsExponent exponent ∧
      bytes = fraction ++ (exponent ++ rest) := by
  unfold skipAfterInteger at skipped
  split at skipped
  · rename_i tail
    split at skipped
    · contradiction
    rename_i byte more
    split at skipped
    · rename_i firstDigit
      obtain ⟨exponent, isExponent, left⟩ := exists_exponent_of_skip skipped
      obtain ⟨others, each, whole⟩ := exists_digits more
      refine ⟨_, exponent, .some (isDigits_cons firstDigit each), isExponent, ?_⟩
      rw [whole, left]
      rfl
    · contradiction
  · obtain ⟨exponent, isExponent, rfl⟩ := exists_exponent_of_skip skipped
    exact ⟨[], exponent, .none, isExponent, rfl⟩

/-- An exponent does not continue digits. -/
theorem endsDigits_exponent {exponent rest : List UInt8} (isExponent : IsExponent exponent)
    (ends : EndsNumber rest) : EndsDigits (exponent ++ rest) := by
  cases isExponent with
  | none => exact ends.endsDigits
  | some isMark _ _ =>
      intro byte first
      obtain rfl := Option.some.inj first
      simp only [List.mem_cons, List.not_mem_nil, or_false] at isMark
      rcases isMark with rfl | rfl <;> rfl

theorem skipAfterInteger_append {fraction exponent rest : List UInt8}
    (isFraction : IsFraction fraction) (isExponent : IsExponent exponent)
    (ends : EndsNumber rest) : skipAfterInteger (fraction ++ (exponent ++ rest)) = .ok rest := by
  have skipped := skipExponentIfAny_append isExponent ends
  cases isFraction with
  | none =>
      rw [List.nil_append, skipAfterInteger.eq_def]
      split
      · rename_i tail point
        exfalso
        cases isExponent with
        | none => exact (ends 0x2E (by simp [show rest = _ from point])).2.2 rfl
        | some isMark _ _ =>
            rw [(List.cons.inj point).1] at isMark
            contradiction
      · exact skipped
  | some isDigits =>
      obtain ⟨first, others, rfl, firstDigit, each⟩ := isDigits.exists_cons
      simp only [List.cons_append, skipAfterInteger, firstDigit, if_true]
      rw [skipDigits_append each (endsDigits_exponent isExponent ends), skipped]

/-! ## Numbers -/

theorem exists_unsigned_of_skipNumber {bytes rest : List UInt8}
    (skipped : skipNumber bytes = .ok rest) :
    ∃ number, IsUnsigned number ∧ bytes = number ++ rest := by
  unfold skipNumber at skipped
  split at skipped
  · contradiction
  rename_i byte tail
  split at skipped
  · rename_i isZero
    obtain rfl := eq_of_beq isZero
    split at skipped
    · contradiction
    obtain ⟨fraction, exponent, isFraction, isExponent, rfl⟩ := exists_fraction_of_skip skipped
    refine ⟨_, .parts (.inl rfl) isFraction isExponent, ?_⟩
    simp
  rename_i notZero
  split at skipped
  · rename_i firstDigit
    obtain ⟨fraction, exponent, isFraction, isExponent, left⟩ := exists_fraction_of_skip skipped
    obtain ⟨others, each, whole⟩ := exists_digits tail
    have integer : IsInteger (byte :: others) := by
      refine .inr ⟨isDigits_cons firstDigit each, ?_⟩
      simpa using notZero
    refine ⟨_, .parts integer isFraction isExponent, ?_⟩
    rw [whole, left]
    simp
  · contradiction

theorem skipNumber_append {number rest : List UInt8} (isUnsigned : IsUnsigned number)
    (ends : EndsNumber rest) : skipNumber (number ++ rest) = .ok rest := by
  obtain ⟨isInteger, isFraction, isExponent⟩ := isUnsigned
  rename_i integer fraction exponent
  have skipped := skipAfterInteger_append isFraction isExponent ends
  have endsInteger : EndsDigits (fraction ++ (exponent ++ rest)) := by
    cases isFraction with
    | none =>
        rw [List.nil_append]
        exact endsDigits_exponent isExponent ends
    | some _ =>
        intro byte first
        obtain rfl := Option.some.inj first
        rfl
  rw [List.append_assoc, List.append_assoc]
  rcases isInteger with rfl | ⟨isDigits, notZero⟩
  · have noDigit : ((fraction ++ (exponent ++ rest)).head?.any isDigit) = false := by
      cases found : (fraction ++ (exponent ++ rest)).head? with
      | none => rfl
      | some byte => exact endsInteger byte found
    rw [List.singleton_append, skipNumber, if_pos (by decide), noDigit]
    exact skipped
  · obtain ⟨first, others, rfl, firstDigit, each⟩ := isDigits.exists_cons
    have noZero : ¬(first == 0x30) = true := by
      rw [beq_iff_eq]
      rintro rfl
      exact notZero rfl
    rw [List.cons_append, skipNumber, if_neg noZero, if_pos firstDigit,
      skipDigits_append each endsInteger, skipped]

/-- The first byte of a number is a digit. -/
theorem IsUnsigned.exists_cons {number : List UInt8} (isUnsigned : IsUnsigned number) :
    ∃ first others, number = first :: others ∧ isDigit first = true := by
  obtain ⟨isInteger, _, _⟩ := isUnsigned
  rcases isInteger with rfl | ⟨isDigits, _⟩
  · exact ⟨0x30, _, rfl, rfl⟩
  · obtain ⟨first, others, rfl, firstDigit, -⟩ := isDigits.exists_cons
    exact ⟨first, _, List.cons_append, firstDigit⟩

end Shortlink.Json
