import Shortlink.Log.Filter
import Shortlink.Proofs.Text.Cutting

/-!
# Where directives are cut

The parts of a directive are cut out of it at the places where its marks stand, counted without
the blanks at its start.  A directive that has no blanks there is only ever cut between
characters.
-/

namespace Shortlink.Log

open String (utf8Len)

/-- Reading comes to something of a kind or is refused, and no part would begin or end within a
character. -/
def Yields {α : Type} (holds : α → Prop) : Except DirectiveFailure α → Prop
  | .ok value => holds value
  | .error (.refused _) => True
  | .error (.broken _) => False

theorem Yields.bind {α β : Type} {holds : α → Prop} {keeps : β → Prop}
    {result : Except DirectiveFailure α} {next : α → Except DirectiveFailure β}
    (first : Yields holds result) (others : ∀ value, holds value → Yields keeps (next value)) :
    Yields keeps (result >>= next) := by
  cases result with
  | ok value => exact others value first
  | error failure =>
      cases failure with
      | refused error => trivial
      | broken fault => exact first

namespace Directive

variable {text : String} {read : Directive} {state : State}

/-- A part that stands between characters is found. -/
theorem yields_cut {front part after : List Char} (same : text.toList = front ++ part ++ after) :
    Yields (fun _ => True) (cut text (utf8Len front) (utf8Len (front ++ part))) := by
  have stands : Text.Stands text.toList (utf8Len front) (utf8Len (front ++ part))
      (String.ofList part).toList :=
    ⟨front, after, by rw [String.toList_ofList, same], rfl, by rw [String.toList_ofList]⟩
  have inside : utf8Len (front ++ part) ≤ utf8Len text.toList := by
    rw [same, String.utf8Len_append (front ++ part)]
    exact Nat.le_add_right _ _
  have ordered : utf8Len front ≤ utf8Len (front ++ part) := by
    rw [String.utf8Len_append]
    exact Nat.le_add_right _ _
  rw [cut, (Text.cut_eq_ok_iff ordered inside).mpr stands]
  trivial

theorem yields_fieldOf (content : String) : Yields (fun _ => True) (fieldOf content) := by
  unfold fieldOf
  split
  · split <;> trivial
  · split <;> trivial

/-- What is being read has started where a character begins. -/
def State.IsAligned (before : List Char) : State → Prop
  | .word first | .span first | .field first | .threshold first =>
      ∃ front part, before = front ++ part ∧ utf8Len front = first
  | .start | .fieldEnd | .scopeEnd => True

variable {before after : List Char} {character : Char}

/-- What is being read goes on. -/
theorem State.IsAligned.concat (aligned : state.IsAligned before) (character : Char) :
    state.IsAligned (before ++ [character]) := by
  have longer {first : Nat} : (∃ front part, before = front ++ part ∧ utf8Len front = first) →
      ∃ front part, before ++ [character] = front ++ part ∧ utf8Len front = first := by
    rintro ⟨front, part, rfl, start⟩
    exact ⟨front, part ++ [character], List.append_assoc .., start⟩
  cases state with
  | word first => exact longer aligned
  | span first => exact longer aligned
  | field first => exact longer aligned
  | threshold first => exact longer aligned
  | start => trivial
  | fieldEnd => trivial
  | scopeEnd => trivial

/-- What is read after a character begins there. -/
theorem exists_front_concat (one : character.utf8Size = 1) :
    ∃ front part, before ++ [character] = front ++ part ∧
      utf8Len front = utf8Len before + 1 :=
  ⟨before ++ [character], [], (List.append_nil _).symm, by simp [one]⟩

/-- A character is taken without a cut through one, and what is read next starts at one. -/
theorem State.yields_take (same : text.toList = before ++ character :: after)
    (aligned : state.IsAligned before) :
    Yields (fun taken => taken.1.IsAligned (before ++ [character]))
      (state.take text read (utf8Len before) character) := by
  cases state with
  | start =>
      rw [take]
      split
      · rename_i bracket
        exact exists_front_concat (bracket ▸ rfl)
      · split
        · exact ⟨before, [character], rfl, rfl⟩
        · trivial
  | word first =>
      have goesOn := aligned.concat character
      obtain ⟨front, part, rfl, rfl⟩ := aligned
      rw [take]
      split
      · rename_i sign
        refine (yields_cut same).bind fun _ _ => ?_
        exact exists_front_concat (sign ▸ rfl)
      · split
        · rename_i bracket
          refine (yields_cut same).bind fun _ _ => ?_
          exact exists_front_concat (bracket ▸ rfl)
        · exact goesOn
  | span first =>
      have goesOn := aligned.concat character
      obtain ⟨front, part, rfl, rfl⟩ := aligned
      rw [take]
      split
      · refine (yields_cut same).bind fun _ _ => ?_
        trivial
      · split
        · rename_i brace
          refine (yields_cut same).bind fun _ _ => ?_
          exact exists_front_concat (brace ▸ rfl)
        · exact goesOn
  | field first =>
      have goesOn := aligned.concat character
      obtain ⟨front, part, rfl, rfl⟩ := aligned
      rw [take]
      split
      · refine (yields_cut same).bind fun content _ => ?_
        refine (yields_fieldOf content).bind fun _ _ => ?_
        trivial
      · exact goesOn
  | fieldEnd =>
      rw [take]
      split <;> trivial
  | scopeEnd =>
      rw [take]
      split
      · rename_i sign
        exact exists_front_concat (sign ▸ rfl)
      · trivial
  | threshold first => exact aligned.concat character

/-- So are all characters. -/
theorem State.yields_takeAll {characters : List Char}
    (same : text.toList = before ++ (characters ++ after)) (aligned : state.IsAligned before) :
    Yields (fun taken => taken.1.IsAligned (before ++ characters))
      (state.takeAll text read (utf8Len before) characters) := by
  -- The place is counted by the characters already taken, so these grow along the run.
  induction characters generalizing state read before with
  | nil => rwa [List.append_nil]
  | cons character rest ih =>
      have place : utf8Len (before ++ [character]) = utf8Len before + character.utf8Size := by
        simp
      rw [takeAll]
      refine (yields_take same aligned).bind fun taken begun => ?_
      have rests : Yields (fun last => last.1.IsAligned (before ++ [character] ++ rest))
          (taken.1.takeAll text taken.2 (utf8Len (before ++ [character])) rest) :=
        ih (by rw [same]; simp) begun
      rwa [place, List.append_assoc] at rests

theorem State.yields_finish (same : text.toList = before ++ after)
    (aligned : state.IsAligned before) : Yields (fun _ => True) (state.finish text read) := by
  have toEnd {first : Nat} : (∃ front part, before = front ++ part ∧ utf8Len front = first) →
      Yields (fun _ => True) (cut text first text.utf8ByteSize) := by
    rintro ⟨front, part, rfl, rfl⟩
    have whole : text.toList = front ++ (part ++ after) ++ [] := by
      rw [same, List.append_nil, List.append_assoc]
    have found := yields_cut whole
    rwa [← List.append_nil (front ++ _), ← whole, String.utf8Len_toList] at found
  cases state with
  | word first =>
      rw [finish]
      refine (toEnd aligned).bind fun word _ => ?_
      split <;> trivial
  | threshold first =>
      rw [finish]
      refine (toEnd aligned).bind fun word _ => ?_
      split
      · trivial
      · split <;> trivial
  | _ => trivial

/-- Nothing is taken away at the start of a text that begins with no blank. -/
theorem exists_trim_append {characters : List Char}
    (filled : ∀ first ∈ characters.head?, ¬Text.isBlank first) :
    ∃ blanks, characters = Text.trim characters ++ blanks := by
  have start : characters.dropWhile Text.isBlank = characters := by
    cases characters with
    | nil => rfl
    | cons first rest => exact List.dropWhile_cons_of_neg (filled first rfl)
  rw [Text.trim, start]
  obtain ⟨blanks, same⟩ := List.dropWhile_suffix (l := characters.reverse) Text.isBlank
  refine ⟨blanks.reverse, ?_⟩
  rw [← List.reverse_append, same, List.reverse_reverse]

/-- A text that begins with no blank is a directive or is refused. -/
theorem yields_parse (filled : ∀ first ∈ text.toList.head?, ¬Text.isBlank first) :
    Yields (fun _ => True) (parse text) := by
  obtain ⟨blanks, same⟩ := exists_trim_append filled
  have whole : text.toList = [] ++ (Text.trim text.toList ++ blanks) := same
  have begun : State.start.IsAligned [] := trivial
  refine (State.yields_takeAll whole begun).bind fun taken aligned => ?_
  exact State.yields_finish same aligned

end Directive

theorem yields_mapM {α β : Type} {read : α → Except DirectiveFailure β} {items : List α}
    (each : ∀ item ∈ items, Yields (fun _ => True) (read item)) :
    Yields (fun _ => True) (items.mapM read) := by
  induction items with
  | nil => trivial
  | cons item rest ih =>
      obtain ⟨first, others⟩ := List.forall_mem_cons.mp each
      rw [List.mapM_cons]
      refine first.bind fun value _ => ?_
      refine (ih others).bind fun values _ => ?_
      trivial

/-- A text is a list of directives or is refused if none of its pieces begins with a blank. -/
theorem yields_readDirectives {text : String}
    (filled : ∀ piece ∈ Text.split ',' text.toList, ∀ first ∈ piece.head?, ¬Text.isBlank first) :
    Yields (fun _ => True) (readDirectives text) := by
  refine yields_mapM fun piece member => ?_
  obtain ⟨characters, cut, kept⟩ := List.mem_filterMap.mp member
  split at kept
  · contradiction
  · obtain rfl := Option.some.inj kept
    exact Directive.yields_parse (by rw [String.toList_ofList]; exact filled characters cut)

end Shortlink.Log
