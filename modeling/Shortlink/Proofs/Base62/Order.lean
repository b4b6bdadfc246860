import Mathlib.Data.List.Shortlex
import Shortlink.Proofs.Base62.Codec

/-!
# The order of numerals

Sorted as plain texts, numerals are out of order: `10` comes before `2`.  In the order of the
numbers the shorter of two numerals comes first, and numerals of one length are compared digit
by digit, by the places of the digits in the alphabet.
-/

namespace Shortlink.Base62

/-- A digit stands before another one in the alphabet. -/
def StandsBefore (first second : Char) : Prop :=
  alphabet.idxOf first < alphabet.idxOf second

/-- A numeral comes before another one: it is shorter, or it is as long and has the earlier digit
where the two differ first. -/
def Precedes (first second : String) : Prop :=
  List.Shortlex StandsBefore first.toList second.toList

/-! ## Digits -/

theorem idxOf_digit {value : Nat} (small : value < 62) : alphabet.idxOf (digit value) = value := by
  have each : ∀ value < 62, alphabet.idxOf (digit value) = value := by decide +kernel
  exact each value small

theorem standsBefore_digit_iff {first second : Nat} (firstSmall : first < 62)
    (secondSmall : second < 62) : StandsBefore (digit first) (digit second) ↔ first < second := by
  rw [StandsBefore, idxOf_digit firstSmall, idxOf_digit secondSmall]

theorem digit_inj {first second : Nat} (firstSmall : first < 62) (secondSmall : second < 62) :
    digit first = digit second ↔ first = second := by
  constructor
  · intro same
    rw [← idxOf_digit firstSmall, same, idxOf_digit secondSmall]
  · exact congrArg digit

/-! ## Numerals of one length -/

/-- To the right of digits that denote different numbers, further digits do not matter; to the
right of digits that denote the same number, the first difference decides. -/
theorem numberFrom_lt_iff {first second : List Nat} (sameLength : first.length = second.length)
    (firstSmall : ∀ value ∈ first, value < 62) (secondSmall : ∀ value ∈ second, value < 62)
    (start other : Nat) :
    numberFrom start first < numberFrom other second ↔
      start < other ∨
        start = other ∧ List.Lex StandsBefore (first.map digit) (second.map digit) := by
  induction first generalizing second start other with
  | nil =>
      obtain rfl := List.length_eq_zero_iff.mp sameLength.symm
      simp [numberFrom]
  | cons value values ih =>
      cases second with
      | nil => contradiction
      | cons otherValue otherValues =>
          have small := firstSmall value List.mem_cons_self
          have otherSmall := secondSmall otherValue List.mem_cons_self
          rw [numberFrom_cons, numberFrom_cons,
            ih (Nat.succ.inj sameLength)
              (fun known member => firstSmall known (List.mem_cons_of_mem value member))
              (fun known member => secondSmall known (List.mem_cons_of_mem otherValue member)),
            List.map_cons, List.map_cons, List.cons_lex_cons_iff,
            standsBefore_digit_iff small otherSmall, digit_inj small otherSmall]
          -- One more digit makes the numbers `start * 62 + value` and `other * 62 + otherValue`.
          by_cases later : List.Lex StandsBefore (values.map digit) (otherValues.map digit)
          · simp only [later, and_true]
            omega
          · simp only [later, and_false, or_false]
            omega

/-! ## Numerals of any length -/

theorem length_encode (number : UInt64) :
    (encode number).toList.length = (shortest number.toNat).length := by
  rw [toList_encode, List.length_map]

/-- Larger numbers never have shorter numerals. -/
theorem length_shortest_mono {first second : Nat} (atMost : first ≤ second) :
    (shortest first).length ≤ (shortest second).length := by
  by_cases zero : first = 0
  · subst zero
    exact List.length_pos_iff.mpr (shortest_ne_nil second)
  · rw [shortest_of_ne_zero zero, shortest_of_ne_zero (by omega), List.length_reverse,
      List.length_reverse]
    exact Nat.le_length_digits_le 62 first second atMost

theorem length_encode_mono {first second : UInt64} (atMost : first ≤ second) :
    (encode first).length ≤ (encode second).length := by
  rw [← String.length_toList, ← String.length_toList, length_encode, length_encode]
  exact length_shortest_mono (UInt64.le_iff_toNat_le.mp atMost)

/-- Numerals of one length have the order of their digits. -/
theorem lt_iff_lex_encode {first second : UInt64}
    (sameLength : (encode first).toList.length = (encode second).toList.length) :
    first < second ↔ List.Lex StandsBefore (encode first).toList (encode second).toList := by
  rw [length_encode, length_encode] at sameLength
  have decided := numberFrom_lt_iff sameLength (fun _ => lt_of_mem_shortest)
    (fun _ => lt_of_mem_shortest) 0 0
  rw [numberFrom_shortest, numberFrom_shortest, ← toList_encode, ← toList_encode] at decided
  simpa [UInt64.lt_iff_toNat_lt] using decided

/-- Numerals have the order of their numbers. -/
theorem lt_iff_precedes_encode (first second : UInt64) :
    first < second ↔ Precedes (encode first) (encode second) := by
  rw [Precedes, List.shortlex_def]
  constructor
  · intro less
    have shorter := length_encode_mono (UInt64.le_of_lt less)
    rw [← String.length_toList, ← String.length_toList] at shorter
    rcases Nat.lt_or_eq_of_le shorter with length | sameLength
    · exact .inl length
    · exact .inr ⟨sameLength, (lt_iff_lex_encode sameLength).mp less⟩
  · rintro (length | ⟨sameLength, earlier⟩)
    · by_contra notLess
      have longer := length_encode_mono (UInt64.not_lt.mp notLess)
      rw [← String.length_toList, ← String.length_toList] at longer
      omega
    · exact (lt_iff_lex_encode sameLength).mpr earlier

end Shortlink.Base62
