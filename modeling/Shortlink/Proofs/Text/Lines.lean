import Shortlink.Json.Writer
import Shortlink.Proofs.Text.Digits
import Shortlink.Proofs.Text.Splitting

/-!
# Lines of texts

How many lines a text has, counted over the parts that it is put together from, and that
lines that are put one after the other are found again.  A text that is quoted or written in
a document has no end of a line.
-/

namespace Shortlink.Text

/-- How many lines end in a text. -/
def breaks (text : String) : Nat :=
  text.toList.count '\n'

/-- The lines of a text, without their ends.  What follows the last end is no line. -/
def lines (text : String) : List String :=
  (split '\n' text.toList).dropLast.map String.ofList

/-! ## Parts of texts -/

@[simp]
theorem breaks_append (first second : String) :
    breaks (first ++ second) = breaks first + breaks second := by
  rw [breaks, String.toList_append, List.count_append, breaks, breaks]

theorem join_singleton (text : String) : String.join [text] = text := by
  rw [String.join_cons, String.join_nil, String.append_empty]

theorem breaks_intercalate {separator : String} (none : breaks separator = 0)
    (texts : List String) :
    breaks (separator.intercalate texts) = breaks (String.join texts) := by
  induction texts with
  | nil => rfl
  | cons text rest ih =>
      rw [String.join_cons, breaks_append, ← ih]
      cases rest with
      | nil => rw [String.intercalate_singleton]; rfl
      | cons next others =>
          rw [String.intercalate_cons_cons, breaks_append, breaks_append, none, Nat.add_zero]

/-- Texts have as many ends of lines as what is in them, taken together. -/
theorem breaks_join_map {α : Type} {items : List α} {text : α → String}
    {parts : α → List String}
    (each : ∀ item ∈ items, breaks (text item) = breaks (String.join (parts item))) :
    breaks (String.join (items.map text)) = breaks (String.join (items.flatMap parts)) := by
  induction items with
  | nil => rfl
  | cons item rest ih =>
      obtain ⟨first, others⟩ := List.forall_mem_cons.mp each
      rw [List.map_cons, List.flatMap_cons, String.join_cons, String.join_append, breaks_append,
        breaks_append, first, ih others]

theorem breaks_intercalate_eq_zero {separator : String} (none : breaks separator = 0)
    {texts : List String} (whole : ∀ text ∈ texts, breaks text = 0) :
    breaks (separator.intercalate texts) = 0 := by
  rw [breaks_intercalate none]
  induction texts with
  | nil => rfl
  | cons text rest ih =>
      obtain ⟨first, others⟩ := List.forall_mem_cons.mp whole
      rw [String.join_cons, breaks_append, first, ih others]

theorem breaks_eq_zero {text : String} (none : '\n' ∉ text.toList) : breaks text = 0 :=
  List.count_eq_zero.mpr none

theorem length_lines (text : String) : (lines text).length = breaks text := by
  rw [lines, List.length_map, List.length_dropLast, length_split, Nat.add_sub_cancel, breaks]

/-- Lines that are put one after the other, each with its end, are found again. -/
theorem lines_join {texts : List String} (whole : ∀ text ∈ texts, breaks text = 0) :
    lines (String.join (texts.map (· ++ "\n"))) = texts := by
  have cut : split '\n' (String.join (texts.map (· ++ "\n"))).toList =
      texts.map String.toList ++ [[]] := by
    induction texts with
    | nil => rfl
    | cons text rest ih =>
        obtain ⟨first, others⟩ := List.forall_mem_cons.mp whole
        have ending : "\n".toList = ['\n'] := rfl
        rw [List.map_cons, String.join_cons, String.toList_append, String.toList_append, ending,
          List.append_assoc, List.singleton_append,
          split_append_cons (List.count_eq_zero.mp first), ih others]
        rfl
  rw [lines, cut, List.dropLast_concat, List.map_map]
  exact List.map_id'' (fun _ => String.ofList_toList) texts

theorem breaks_toString (number : Nat) : breaks (toString number) = 0 := by
  apply breaks_eq_zero
  intro member
  have isDigit : '\n'.isDigit = true :=
    Nat.isDigit_of_mem_toDigits (by decide) (by decide) (Nat.toList_repr ▸ member)
  exact absurd isDigit (by decide)

theorem digitChar_ne_break {digit : Nat} (small : digit < 16) : '\n' ≠ Nat.digitChar digit := by
  have each : ∀ digit < 16, '\n' ≠ Nat.digitChar digit := by decide
  exact each digit small

/-! ## Quoted texts -/

theorem not_mem_hex (number : Nat) : '\n' ∉ hex number := by
  rw [hex_eq_toDigits]
  intro member
  exact forall_mem_toDigits (by decide) (fun _ => digitChar_ne_break) number '\n' member rfl

theorem not_mem_quotedCharacter (character : Char) : '\n' ∉ quotedCharacter character := by
  unfold quotedCharacter
  -- The characters that have a letter of their own.
  iterate 6
    split
    · decide
  rename_i noBreak _ _ _
  split
  · simp [not_mem_hex]
  · exact fun member => noBreak (List.mem_singleton.mp member).symm

theorem breaks_quote (text : String) : breaks (quote text) = 0 := by
  apply breaks_eq_zero
  rw [quote, String.toList_ofList]
  simp [not_mem_quotedCharacter]

end Shortlink.Text

namespace Shortlink.Json

open Text (breaks)

/-! ## Documents -/

theorem not_mem_writtenCharacter (character : Char) : '\n' ∉ writtenCharacter character := by
  unfold writtenCharacter
  -- The characters that have a letter of their own.
  iterate 7
    split
    · decide
  rename_i noBreak _ _
  split
  · rename_i small
    have high : '\n' ≠ Nat.digitChar (character.toNat / 16) :=
      Text.digitChar_ne_break (Nat.div_lt_of_lt_mul (Nat.lt_trans small (by decide)))
    have low : '\n' ≠ Nat.digitChar (character.toNat % 16) :=
      Text.digitChar_ne_break (Nat.mod_lt _ (by decide))
    simp [high, low]
  · exact fun member => noBreak (List.mem_singleton.mp member).symm

theorem breaks_string (text : String) : breaks (string text) = 0 := by
  apply Text.breaks_eq_zero
  rw [string, String.toList_ofList]
  simp [not_mem_writtenCharacter]

theorem breaks_list {items : List String} (whole : ∀ item ∈ items, breaks item = 0) :
    breaks (list items) = 0 := by
  rw [list, Text.breaks_append, Text.breaks_append,
    Text.breaks_intercalate_eq_zero (by decide) whole]
  rfl

theorem breaks_object {members : List (String × String)}
    (whole : ∀ member ∈ members, breaks member.2 = 0) : breaks (object members) = 0 := by
  have each (member) (isMember : member ∈ members) :
      breaks (string member.1 ++ ":" ++ member.2) = 0 := by
    rw [Text.breaks_append, Text.breaks_append, breaks_string, whole member isMember]
    rfl
  rw [object, Text.breaks_append, Text.breaks_append,
    Text.breaks_intercalate_eq_zero (by decide) (List.forall_mem_map.mpr each)]
  rfl

end Shortlink.Json
