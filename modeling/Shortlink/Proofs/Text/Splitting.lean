import Shortlink.Text.Split

/-!
# Pieces of texts

A text is put together again from its pieces, and pieces without separators are the pieces
of the text that they are put together to.
-/

namespace Shortlink.Text

theorem split_of_not_mem {separator : Char} {text : List Char}
    (absent : separator ∉ text) : split separator text = [text] := by
  induction text with
  | nil => rfl
  | cons character rest ih =>
      rw [List.mem_cons, not_or] at absent
      rw [split, if_neg (Ne.symm absent.1), ih absent.2]

theorem not_mem_of_mem_split {separator : Char} {text piece : List Char}
    (member : piece ∈ split separator text) : separator ∉ piece := by
  induction text generalizing piece with
  | nil =>
      rw [split, List.mem_singleton] at member
      exact member ▸ List.not_mem_nil
  | cons character rest ih =>
      rw [split] at member
      split at member
      · rcases List.mem_cons.mp member with rfl | later
        · exact List.not_mem_nil
        · exact ih later
      · rename_i other
        split at member
        · rw [List.mem_singleton.mp member]
          simp [Ne.symm other]
        · rename_i first pieces cut
          rw [cut] at ih
          rcases List.mem_cons.mp member with rfl | later
          · rw [List.mem_cons, not_or]
            exact ⟨Ne.symm other, ih List.mem_cons_self⟩
          · exact ih (List.mem_cons_of_mem first later)

theorem split_ne_nil (separator : Char) (text : List Char) :
    split separator text ≠ [] := by
  cases text with
  | nil => exact List.cons_ne_nil _ _
  | cons character rest =>
      rw [split]
      split
      · exact List.cons_ne_nil _ _
      · split <;> exact List.cons_ne_nil _ _

/-- The pieces of a text, with separators between them, are the text. -/
theorem intercalate_split (separator : Char) (text : List Char) :
    [separator].intercalate (split separator text) = text := by
  induction text with
  | nil => rfl
  | cons character rest ih =>
      obtain ⟨piece, others, cut⟩ :=
        List.exists_cons_of_ne_nil (split_ne_nil separator rest)
      rw [cut] at ih
      rw [split]
      split
      · rename_i same
        rw [same, cut, List.intercalate_cons_cons, ih, List.nil_append, List.singleton_append]
      · rw [cut]
        cases others with
        | nil => rw [List.intercalate_singleton] at ih ⊢; rw [ih]
        | cons next more =>
            rw [List.intercalate_cons_cons] at ih ⊢
            rw [← ih, List.cons_append, List.cons_append]

theorem length_split (separator : Char) (text : List Char) :
    (split separator text).length = text.count separator + 1 := by
  induction text with
  | nil => rfl
  | cons character rest ih =>
      rw [split]
      split
      · rename_i same
        rw [same, List.count_cons_self, List.length_cons, ih]
      · rename_i other
        rw [List.count_cons_of_ne other, ← ih]
        cases cut : split separator rest with
        | nil => rw [cut] at ih; contradiction
        | cons piece pieces => rfl

/-- What stands in front of a text goes to its first piece. -/
theorem split_append {separator : Char} {front : List Char} (absent : separator ∉ front)
    (text : List Char) :
    split separator (front ++ text) = (split separator text).modifyHead (front ++ ·) := by
  obtain ⟨piece, pieces, cut⟩ := List.exists_cons_of_ne_nil (split_ne_nil separator text)
  rw [cut, List.modifyHead_cons]
  induction front with
  | nil => rw [List.nil_append, cut, List.nil_append]
  | cons character others ih =>
      rw [List.mem_cons, not_or] at absent
      rw [List.cons_append, split, if_neg (Ne.symm absent.1), ih absent.2]
      rfl

theorem split_append_cons {separator : Char} {text : List Char} (absent : separator ∉ text)
    (rest : List Char) :
    split separator (text ++ separator :: rest) = text :: split separator rest := by
  rw [split_append absent, split, if_pos rfl, List.modifyHead_cons, List.append_nil]

/-- Between pieces there are only separators. -/
theorem not_mem_intercalate {separator character : Char} (different : character ≠ separator)
    {pieces : List (List Char)} (absent : ∀ piece ∈ pieces, character ∉ piece) :
    character ∉ [separator].intercalate pieces := by
  induction pieces with
  | nil => exact List.not_mem_nil
  | cons piece rest ih =>
      obtain ⟨first, others⟩ := List.forall_mem_cons.mp absent
      cases rest with
      | nil => rwa [List.intercalate_singleton]
      | cons next more =>
          rw [List.intercalate_cons_cons, List.mem_append, List.mem_append, List.mem_singleton]
          rintro ((inside | same) | later)
          · exact first inside
          · exact different same
          · exact ih others later

/-- Pieces without separators are found again. -/
theorem split_intercalate {separator : Char} {pieces : List (List Char)}
    (nonempty : pieces ≠ [])
    (absent : ∀ piece ∈ pieces, separator ∉ piece) :
    split separator ([separator].intercalate pieces) = pieces := by
  induction pieces with
  | nil => contradiction
  | cons piece rest ih =>
      obtain ⟨first, others⟩ := List.forall_mem_cons.mp absent
      cases rest with
      | nil => rw [List.intercalate_singleton, split_of_not_mem first]
      | cons next more =>
          rw [List.intercalate_cons_cons, List.append_assoc, List.singleton_append,
            split_append_cons first, ih (List.cons_ne_nil next more) others]

end Shortlink.Text
