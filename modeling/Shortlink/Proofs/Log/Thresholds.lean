import Shortlink.Log.Directive
import Shortlink.Proofs.Decimal.Numerals

/-!
# How thresholds are written

A threshold has a number and a name.  It is written as the one or the other, and no text is read
as more than one threshold.
-/

namespace Shortlink.Log.Threshold

/-- A text spells a threshold: it is the numeral of its number, or its name in letters of either
case. -/
def IsSpelledBy (threshold : Threshold) (text : String) : Prop :=
  Decimal.Denotes text threshold.rank ∨ text.toList.map Char.toLower = threshold.name.toList

theorem mem_thresholds (threshold : Threshold) : threshold ∈ thresholds := by
  obtain ⟨_ | level⟩ := threshold
  · decide
  · cases level <;> decide

theorem eq_of_name_eq {threshold other : Threshold} (same : threshold.name = other.name) :
    threshold = other := by
  have distinct : ∀ first ∈ thresholds, ∀ second ∈ thresholds,
      first.name = second.name → first = second := by
    decide
  exact distinct _ threshold.mem_thresholds _ other.mem_thresholds same

theorem getElem?_thresholds_eq_some_iff {threshold : Threshold} {number : Nat} :
    thresholds[number]? = some threshold ↔ threshold.rank = number := by
  have ranked : ∀ place < 6, ∀ other ∈ thresholds,
      thresholds[place]? = some other ↔ other.rank = place := by
    decide
  by_cases small : number < 6
  · exact ranked number small threshold threshold.mem_thresholds
  · have least : ∀ other ∈ thresholds, other.rank < 6 := by decide
    have none : thresholds[number]? = none := List.getElem?_eq_none (Nat.le_of_not_lt small)
    have bounded := least threshold threshold.mem_thresholds
    rw [none]
    exact ⟨nofun, fun same => by omega⟩

theorem toLower_eq_of_isDigit {character : Char} (digit : character.isDigit) :
    character.toLower = character := by
  have notUpper : ¬(character.val ≥ 'A'.val ∧ character.val ≤ 'Z'.val) := by
    simp only [Char.isDigit, Bool.and_eq_true, decide_eq_true_eq, ge_iff_le,
      UInt32.le_iff_toNat_le] at digit
    simp [UInt32.le_iff_toNat_le] at digit ⊢
    omega
  exact dif_neg notUpper

/-- A name begins neither with a digit nor with a sign. -/
theorem head?_name (threshold : Threshold) :
    threshold.name.toList.head?.all fun first => !first.isDigit && first != '+' := by
  have each : ∀ other ∈ thresholds,
      other.name.toList.head?.all fun first => !first.isDigit && first != '+' := by
    decide
  exact each threshold threshold.mem_thresholds

/-- No numeral is the name of a threshold, whatever the case of its letters. -/
theorem map_toLower_ne_name {text : String} {number : Nat} (denotes : Decimal.Denotes text number)
    (threshold : Threshold) : text.toList.map Char.toLower ≠ threshold.name.toList := by
  intro same
  have begins := threshold.head?_name
  rw [← same] at begins
  obtain ⟨digits, plain | signed, spells⟩ := denotes
  · obtain ⟨first, rest, rfl, digit⟩ := spells.exists_cons
    simp [plain, toLower_eq_of_isDigit digit, digit] at begins
  · rw [signed] at begins
    contradiction

theorem find?_name_eq_some_iff {name : String} {threshold : Threshold} :
    (thresholds.find? fun other => other.name = name) = some threshold ↔
      threshold.name = name := by
  constructor
  · intro found
    simpa using List.find?_some found
  · rintro rfl
    cases found : thresholds.find? fun other => other.name = threshold.name with
    | none =>
        have differs := List.find?_eq_none.mp found threshold threshold.mem_thresholds
        simp at differs
    | some other =>
        have same : other.name = threshold.name := by simpa using List.find?_some found
        rw [eq_of_name_eq same]

/-- A threshold is read from the texts that spell it. -/
theorem parse?_eq_some_iff {text : String} {threshold : Threshold} :
    parse? text = some threshold ↔ threshold.IsSpelledBy text := by
  unfold parse? IsSpelledBy
  split
  · rename_i number read
    have denotes := Decimal.readUnsigned_eq_ok_iff.mp read
    rw [getElem?_thresholds_eq_some_iff]
    constructor
    · intro same
      exact .inl (same ▸ denotes)
    · rintro (other | named)
      · rw [Decimal.denotes_iff] at denotes other
        exact other.ofDigitChars_eq.symm.trans denotes.ofDigitChars_eq
      · exact absurd named (map_toLower_ne_name denotes threshold)
  · rename_i failure read
    -- A numeral that cannot be read is of a number above all thresholds.
    have noNumeral : ¬Decimal.Denotes text threshold.rank := by
      intro denotes
      have small : threshold.rank < UInt64.size := by
        have least : ∀ other ∈ thresholds, other.rank < UInt64.size := by decide
        exact least threshold threshold.mem_thresholds
      have number : (UInt64.ofNat threshold.rank).toNat = threshold.rank :=
        UInt64.toNat_ofNat_of_lt small
      rw [← number, ← Decimal.readUnsigned_eq_ok_iff, read] at denotes
      contradiction
    rw [find?_name_eq_some_iff, or_iff_right noNumeral, eq_comm, ← String.toList_inj,
      String.toList_ofList]

theorem parse?_eq_none_iff {text : String} :
    parse? text = none ↔ ∀ threshold : Threshold, ¬threshold.IsSpelledBy text := by
  simp only [Option.eq_none_iff_forall_ne_some, ne_eq, parse?_eq_some_iff]

end Shortlink.Log.Threshold
