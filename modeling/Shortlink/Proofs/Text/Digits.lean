import Shortlink.Text.Quoted

/-!
# Digits of numbers

Numbers are written with the digits of a base, the most significant one first.  The first
digit is zero only for the number zero.
-/

namespace Shortlink.Text

/-- What is written in hexadecimal are the digits to the base 16. -/
theorem hexOnto_eq (written : List Char) (number : Nat) :
    hexOnto written number = Nat.toDigits 16 number ++ written := by
  induction written, number using hexOnto.induct with
  | case1 written number small =>
      rw [hexOnto, if_pos small, Nat.toDigits_of_lt_base small, Nat.mod_eq_of_lt small]
      rfl
  | case2 written number _ large ih =>
      rw [hexOnto, if_neg large, ih, Nat.toDigits_of_base_le (by decide) (Nat.le_of_not_lt large),
        List.append_assoc, List.singleton_append]

theorem hex_eq_toDigits (number : Nat) : hex number = Nat.toDigits 16 number := by
  rw [hex, hexOnto_eq, List.append_nil]

/-- Whatever holds of the digits of a base holds of all that is written with them. -/
theorem forall_mem_toDigits {base : Nat} (large : 1 < base) {holds : Char → Prop}
    (each : ∀ digit < base, holds (Nat.digitChar digit)) (number : Nat) :
    ∀ character ∈ Nat.toDigits base number, holds character := by
  induction number using Nat.strongRecOn with
  | _ number ih =>
      by_cases small : number < base
      · rw [Nat.toDigits_of_lt_base small]
        exact List.forall_mem_singleton.mpr (each number small)
      · have atLeast := Nat.le_of_not_lt small
        have before := ih (number / base)
          (Nat.div_lt_self (Nat.lt_of_lt_of_le (Nat.zero_lt_of_lt large) atLeast) large)
        rw [Nat.toDigits_of_base_le large atLeast]
        exact List.forall_mem_append.mpr ⟨before, List.forall_mem_singleton.mpr
          (each _ (Nat.mod_lt _ (Nat.zero_lt_of_lt large)))⟩

/-- A number that is not zero does not begin with a zero. -/
theorem head?_toDigits_ne_zero {number : Nat} (positive : 0 < number) :
    (Nat.toDigits 10 number).head? ≠ some '0' := by
  induction number using Nat.strongRecOn with
  | _ number ih =>
      by_cases small : number < 10
      · have each : ∀ digit < 10, 0 < digit → Nat.digitChar digit ≠ '0' := by decide
        rw [Nat.toDigits_of_lt_base small]
        exact fun zero => each number small positive (Option.some.inj zero)
      · have atLeast := Nat.le_of_not_lt small
        have before := ih (number / 10) (Nat.div_lt_self positive (by decide))
          (Nat.div_pos atLeast (by decide))
        rw [Nat.toDigits_of_base_le (by decide) atLeast]
        cases digits : Nat.toDigits 10 (number / 10) with
        | nil => exact absurd digits Nat.toDigits_ne_nil
        | cons first others => rwa [digits] at before

end Shortlink.Text
