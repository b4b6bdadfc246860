import Mathlib.Data.String.Basic
import Shortlink.Proofs.Decimal.Numerals
import Shortlink.Text.Cut

/-!
# Parts of texts

A part can be cut out of a text exactly if it begins and ends between characters, and what is
cut out then is what stands there.
-/

namespace Shortlink.Text

open String (utf8Len)

/-- What stands in a text between two places. -/
def Stands (text : List Char) (start stop : Nat) (part : List Char) : Prop :=
  ∃ before after, text = before ++ part ++ after ∧ utf8Len before = start ∧
    utf8Len (before ++ part) = stop

/-- A place is within no character exactly if it is where characters end. -/
theorem characterAcross?_eq_none_iff {place first : Nat} {characters : List Char}
    (after : first ≤ place) (inside : place ≤ first + utf8Len characters) :
    characterAcross? place first characters = none ↔
      ∃ before rest, characters = before ++ rest ∧ first + utf8Len before = place := by
  induction characters generalizing first with
  | nil =>
      have same : first = place := Nat.le_antisymm after (by simpa using inside)
      exact ⟨fun _ => ⟨[], [], rfl, same⟩, fun _ => rfl⟩
  | cons character others ih =>
      have positive := character.utf8Size_pos
      rw [String.utf8Len_cons] at inside
      rw [characterAcross?]
      split
      · rename_i reached
        exact ⟨fun _ => ⟨[], _, rfl, Nat.le_antisymm after reached⟩, fun _ => rfl⟩
      rename_i later
      split
      · rename_i within
        refine ⟨nofun, ?_⟩
        rintro ⟨before, rest, cut, same⟩
        rcases List.append_eq_cons_iff.mp cut.symm with ⟨rfl, -⟩ | ⟨more, rfl, -⟩
        · rw [String.utf8Len_nil] at same
          omega
        · rw [String.utf8Len_cons] at same
          omega
      · rename_i beyond
        rw [ih (by omega) (by omega)]
        constructor
        · rintro ⟨before, rest, rfl, rfl⟩
          exact ⟨character :: before, rest, rfl, by rw [String.utf8Len_cons]; omega⟩
        · rintro ⟨before, rest, cut, same⟩
          rcases List.append_eq_cons_iff.mp cut.symm with ⟨rfl, -⟩ | ⟨more, rfl, others⟩
          · rw [String.utf8Len_nil] at same
            omega
          · rw [String.utf8Len_cons] at same
            exact ⟨more, rest, others, by omega⟩

theorem charactersBetween_of_le {start stop first : Nat} {characters : List Char}
    (reached : stop ≤ first) : charactersBetween start stop first characters = [] := by
  induction characters generalizing first with
  | nil => rfl
  | cons character rest ih =>
      simp only [charactersBetween]
      rw [ih (by omega), if_neg (by simp; omega)]

theorem charactersBetween_part {start first : Nat} {part after : List Char}
    (begun : start ≤ first) :
    charactersBetween start (first + utf8Len part) first (part ++ after) = part := by
  induction part generalizing first with
  | nil => exact charactersBetween_of_le (by simp)
  | cons character rest ih =>
      have positive := character.utf8Size_pos
      have stop : first + utf8Len (character :: rest) =
          first + character.utf8Size + utf8Len rest := by
        rw [String.utf8Len_cons]
        omega
      rw [List.cons_append, charactersBetween, stop, ih (by omega), if_pos (by simp; omega)]

theorem charactersBetween_append {start stop first : Nat} {before rest : List Char}
    (early : first + utf8Len before ≤ start) :
    charactersBetween start stop first (before ++ rest) =
      charactersBetween start stop (first + utf8Len before) rest := by
  induction before generalizing first with
  | nil => rfl
  | cons character others ih =>
      have positive := character.utf8Size_pos
      rw [String.utf8Len_cons] at early ⊢
      rw [List.cons_append, charactersBetween, ih (by omega), if_neg (by simp; omega),
        Nat.add_right_comm, Nat.add_assoc]

theorem charactersBetween_eq {text part : List Char} {start stop : Nat}
    (stands : Stands text start stop part) : charactersBetween start stop 0 text = part := by
  obtain ⟨before, after, rfl, rfl, rfl⟩ := stands
  rw [List.append_assoc, charactersBetween_append (by omega), String.utf8Len_append, Nat.zero_add,
    charactersBetween_part (Nat.le_refl _)]

theorem checkEdge_eq_ok_iff {text : List Char} {edge : Edge} {place : Nat}
    (inside : place ≤ utf8Len text) :
    checkEdge text edge place = .ok () ↔
      ∃ before rest, text = before ++ rest ∧ utf8Len before = place := by
  have across := characterAcross?_eq_none_iff (Nat.zero_le place) (by simpa using inside)
  simp only [Nat.zero_add] at across
  rw [← across, checkEdge]
  split <;> simp_all

/-- Between two places where characters end stands a part. -/
theorem exists_stands {text before rest front back : List Char} {start stop : Nat}
    (starts : text = before ++ rest) (startAt : utf8Len before = start)
    (stops : text = front ++ back) (stopAt : utf8Len front = stop) (ordered : start ≤ stop) :
    ∃ part, Stands text start stop part := by
  subst starts startAt stopAt
  rcases List.append_eq_append_iff.mp stops with ⟨part, rfl, others⟩ | ⟨part, rfl, -⟩
  · exact ⟨part, before, back, by rw [others, List.append_assoc], rfl, rfl⟩
  · have nothing : utf8Len part = 0 := by
      rw [String.utf8Len_append] at ordered
      omega
    obtain rfl := String.utf8Len_eq_zero.mp nothing
    exact ⟨[], front, rest, by simp, by simp, by simp⟩

/-- A part can be cut out exactly if it stands there. -/
theorem cut_eq_ok_iff {text part : String} {start stop : Nat} (ordered : start ≤ stop)
    (inside : stop ≤ utf8Len text.toList) :
    cut text start stop = .ok part ↔ Stands text.toList start stop part.toList := by
  unfold cut
  constructor
  · intro done
    obtain ⟨⟨⟩, startFound, afterStart⟩ := exceptBind_eq_ok_iff.mp done
    obtain ⟨⟨⟩, stopFound, afterStop⟩ := exceptBind_eq_ok_iff.mp afterStart
    obtain ⟨before, rest, starts, startAt⟩ :=
      (checkEdge_eq_ok_iff (Nat.le_trans ordered inside)).mp startFound
    obtain ⟨front, back, stops, stopAt⟩ := (checkEdge_eq_ok_iff inside).mp stopFound
    obtain ⟨found, stands⟩ := exists_stands starts startAt stops stopAt ordered
    obtain rfl := Except.ok.inj afterStop
    rwa [charactersBetween_eq stands, String.toList_ofList]
  · intro stands
    obtain ⟨before, after, same, startAt, stopAt⟩ := id stands
    have startFound : checkEdge text.toList .start start = .ok () :=
      (checkEdge_eq_ok_iff (Nat.le_trans ordered inside)).mpr
        ⟨before, part.toList ++ after, by rw [same, List.append_assoc], startAt⟩
    have stopFound : checkEdge text.toList .stop stop = .ok () :=
      (checkEdge_eq_ok_iff inside).mpr ⟨_, after, same, stopAt⟩
    rw [startFound, stopFound, charactersBetween_eq stands, String.ofList_toList]
    rfl

end Shortlink.Text
