import Mathlib.Data.List.Forall2
import Shortlink.Log.Filter
import Shortlink.Proofs.Log.Thresholds
import Shortlink.Proofs.Text.Cutting
import Shortlink.Proofs.Text.Splitting

/-!
# How directives are written

A directive is a target, a scope in brackets and a threshold after a sign of equality, of which
the target or the scope may be missing, and the threshold as well; a word alone is a threshold if
it can be one.  This form is found by going over the characters without the blanks at both ends,
and the parts are then cut out of the text with its blanks, at the same places.
-/

namespace Shortlink.Log

open String (utf8Len)

namespace Directive

/-! ## Form -/

/-- What can stand in front of the brackets of a directive. -/
structure IsTarget (word : List Char) : Prop where
  /-- It starts in the right way. -/
  starts : ∃ first ∈ word.head?, mayStart first
  /-- It ends before the first sign of equality or bracket. -/
  unmarked : List.Disjoint ['=', '['] word

/-- A field is asked for by its name, or by its name and a value after a sign of equality.  What
stands after another sign of equality does not matter. -/
inductive IsField : List Char → FieldPattern → Prop
  | named {name : List Char} : name ≠ [] → '=' ∉ name →
      IsField name { name := String.ofList name }
  | valued {name value rest : List Char} {pattern : ValuePattern} : '=' ∉ name → '=' ∉ value →
      (rest = [] ∨ ∃ more, rest = '=' :: more) →
      ValuePattern.ofText (String.ofList value) = .ok pattern →
      IsField (name ++ '=' :: (value ++ rest))
        { name := String.ofList name, value? := some pattern }

/-- The end of a directive from a place on: nothing, or a sign of equality, which may have a
threshold after it.  Without a threshold everything is let through. -/
inductive IsLimit (text : String) (place : Nat) : List Char → Threshold → Prop
  | missing : IsLimit text place [] (.upTo .trace)
  | empty {rest : List Char} : cut text (place + 1) text.utf8ByteSize = .ok "" →
      IsLimit text place ('=' :: rest) (.upTo .trace)
  | given {rest : List Char} {part : String} {threshold : Threshold} :
      cut text (place + 1) text.utf8ByteSize = .ok part →
      threshold.IsSpelledBy part → IsLimit text place ('=' :: rest) threshold

/-- A scope from a place on: the name of a span in brackets, or a field in braces there, with
the name of a span in front of it perhaps. -/
inductive IsScope (text : String) (place : Nat) :
    List Char → Option String → Option FieldPattern → Prop
  | span {name : List Char} {part : String} : List.Disjoint [']', '\x7b'] name →
      cut text (place + 1) (place + 1 + utf8Len name) = .ok part →
      IsScope text place ('[' :: name ++ [']']) (some part) none
  | field {name inner : List Char} {part content : String} {field : FieldPattern} :
      List.Disjoint [']', '\x7b'] name →
      cut text (place + 1) (place + 1 + utf8Len name) = .ok part →
      List.Disjoint ['\x7d'] inner →
      cut text (place + 1 + utf8Len name + 1) (place + 1 + utf8Len name + 1 + utf8Len inner) =
        .ok content →
      IsField content.toList field →
      IsScope text place ('[' :: name ++ '\x7b' :: inner ++ ['\x7d', ']'])
        (if part.isEmpty then none else some part) (some field)

/-- A directive whose characters between the blanks are the ones given. -/
inductive IsWritten (text : String) : List Char → Directive → Prop
  | threshold {word : List Char} {threshold : Threshold} : IsTarget word →
      threshold.IsSpelledBy text → IsWritten text word { threshold }
  | target {word : List Char} : IsTarget word →
      (∀ threshold : Threshold, ¬threshold.IsSpelledBy text) →
      IsWritten text word { target? := some text }
  | limited {word rest : List Char} {target : String} {threshold : Threshold} : IsTarget word →
      cut text 0 (utf8Len word) = .ok target →
      IsLimit text (utf8Len word) ('=' :: rest) threshold →
      IsWritten text (word ++ '=' :: rest) { target? := some target, threshold }
  | spanned {scope rest : List Char} {span? : Option String} {field? : Option FieldPattern}
      {threshold : Threshold} : IsScope text 0 scope span? field? →
      IsLimit text (utf8Len scope) rest threshold →
      IsWritten text (scope ++ rest) { span?, field?, threshold }
  | within {word scope rest : List Char} {target : String} {span? : Option String}
      {field? : Option FieldPattern} {threshold : Threshold} : IsTarget word →
      cut text 0 (utf8Len word) = .ok target →
      IsScope text (utf8Len word) scope span? field? →
      IsLimit text (utf8Len word + utf8Len scope) rest threshold →
      IsWritten text (word ++ scope ++ rest) { target? := some target, span?, field?, threshold }

/-! ## Reading on -/

/-- Reads on to the end. -/
def State.readOn (text : String) (state : State) (read : Directive) (place : Nat)
    (characters : List Char) : Except DirectiveFailure Directive := do
  let (state, read) ← state.takeAll text read place characters
  state.finish text read

variable {text : String} {state : State} {read directive : Directive} {place first : Nat}
  {characters : List Char} {target? span? : Option String} {field? : Option FieldPattern}

theorem parse_eq_readOn (text : String) :
    parse text = State.start.readOn text {} 0 (Text.trim text.toList) :=
  rfl

namespace State

theorem readOn_cons (character : Char) (rest : List Char) :
    state.readOn text read place (character :: rest) =
      (state.take text read place character >>= fun taken =>
        taken.1.readOn text taken.2 (place + character.utf8Size) rest) := by
  simp only [readOn, takeAll, bind_assoc]

theorem readOn_cons_of_take {character : Char} {rest : List Char} {next : State}
    {taken : Directive} (takes : state.take text read place character = .ok (next, taken)) :
    state.readOn text read place (character :: rest) =
      next.readOn text taken (place + character.utf8Size) rest := by
  rw [readOn_cons, takes]
  rfl

/-- A state that other characters leave as it is reads up to the first mark. -/
theorem readOn_eq_ok_iff (marks : List Char)
    (stays : ∀ place character, character ∉ marks →
      state.take text read place character = .ok (state, read)) :
    state.readOn text read place characters = .ok directive ↔
      List.Disjoint marks characters ∧ state.finish text read = .ok directive ∨
        ∃ front mark rest, characters = front ++ mark :: rest ∧ List.Disjoint marks front ∧
          mark ∈ marks ∧
          state.readOn text read (place + utf8Len front) (mark :: rest) = .ok directive := by
  induction characters generalizing place with
  | nil =>
      have ends : state.readOn text read place [] = state.finish text read := rfl
      simp [ends]
  | cons character others ih =>
      by_cases stop : character ∈ marks
      · constructor
        · intro reads
          exact .inr ⟨[], character, others, rfl, List.disjoint_nil_right _, stop, reads⟩
        · rintro (⟨apart, -⟩ | ⟨front, mark, rest, same, apart, -, reads⟩)
          · exact absurd List.mem_cons_self (apart stop)
          · rcases List.append_eq_cons_iff.mp same.symm with ⟨rfl, begins⟩ | ⟨more, rfl, -⟩
            · rwa [begins] at reads
            · exact absurd List.mem_cons_self (apart stop)
      · rw [readOn_cons_of_take (stays place character stop), ih, List.disjoint_cons_right]
        -- A mark is at the same place if it is counted from the next character on.
        have further (more : List Char) : place + utf8Len (character :: more) =
            place + character.utf8Size + utf8Len more := by
          rw [String.utf8Len_cons, Nat.add_comm (utf8Len more), Nat.add_assoc]
        constructor
        · rintro (⟨apart, ends⟩ | ⟨front, mark, rest, rfl, apart, among, reads⟩)
          · exact .inl ⟨⟨stop, apart⟩, ends⟩
          · refine .inr ⟨character :: front, mark, rest, rfl,
              List.disjoint_cons_right.mpr ⟨stop, apart⟩, among, ?_⟩
            rwa [further]
        · rintro (⟨⟨-, apart⟩, ends⟩ | ⟨front, mark, rest, same, apart, among, reads⟩)
          · exact .inl ⟨apart, ends⟩
          · rcases List.append_eq_cons_iff.mp same.symm with ⟨rfl, same⟩ | ⟨more, rfl, others⟩
            · obtain ⟨rfl, rfl⟩ := List.cons.inj same
              contradiction
            · rw [further] at reads
              exact .inr ⟨more, mark, rest, others, (List.disjoint_cons_right.mp apart).2, among,
                reads⟩

/-- At a mark that ends a part, the part is cut out and another state reads on. -/
theorem readOn_cons_eq_ok_iff_of_cut {mark : Char} {rest : List Char}
    {next : String → State × Directive}
    (takes : state.take text read place mark =
      cut text first place >>= fun part => .ok (next part)) :
    state.readOn text read place (mark :: rest) = .ok directive ↔
      ∃ part, cut text first place = .ok part ∧
        (next part).1.readOn text (next part).2 (place + mark.utf8Size) rest = .ok directive := by
  rw [readOn_cons, takes, bind_assoc, exceptBind_eq_ok_iff]
  rfl

end State

/-! ## Part by part -/

theorem fieldOf_of_not_mem {content : String} (plain : '=' ∉ content.toList) :
    fieldOf content = if content.isEmpty then refuse .form else .ok { name := content } := by
  rw [fieldOf, Text.split_of_not_mem plain]

theorem fieldOf_eq_ok_iff_of_mem {content : String} {name value rest : List Char}
    {field : FieldPattern} (same : content.toList = name ++ '=' :: (value ++ rest))
    (plain : '=' ∉ name) (simple : '=' ∉ value) (ends : rest = [] ∨ ∃ more, rest = '=' :: more) :
    fieldOf content = .ok field ↔
      ∃ pattern, ValuePattern.ofText (String.ofList value) = .ok pattern ∧
        field = { name := String.ofList name, value? := some pattern } := by
  have cut : ∃ pieces, Text.split '=' content.toList = name :: value :: pieces := by
    rw [same, Text.split_append_cons plain]
    rcases ends with rfl | ⟨more, rfl⟩
    · exact ⟨[], by rw [List.append_nil, Text.split_of_not_mem simple]⟩
    · exact ⟨_, by rw [Text.split_append_cons simple]⟩
  obtain ⟨pieces, cut⟩ := cut
  rw [fieldOf, cut]
  cases found : ValuePattern.ofText (String.ofList value) with
  | ok pattern => simp [found, eq_comm]
  | error error => simp [found, refuse]

/-- What stands after the first sign of equality goes up to the second one, if there is one. -/
theorem exists_simple (characters : List Char) :
    ∃ value rest, characters = value ++ rest ∧ '=' ∉ value ∧
      (rest = [] ∨ ∃ more, rest = '=' :: more) := by
  by_cases marked : '=' ∈ characters
  · obtain ⟨value, more, same, simple⟩ := List.eq_append_cons_of_mem marked
    exact ⟨value, _, same, simple, .inr ⟨more, rfl⟩⟩
  · exact ⟨characters, [], (List.append_nil _).symm, marked, .inl rfl⟩

theorem fieldOf_eq_ok_iff {content : String} {field : FieldPattern} :
    fieldOf content = .ok field ↔ IsField content.toList field := by
  constructor
  · intro read
    by_cases marked : '=' ∈ content.toList
    · obtain ⟨name, after, same, plain⟩ := List.eq_append_cons_of_mem marked
      obtain ⟨value, rest, rfl, simple, ends⟩ := exists_simple after
      obtain ⟨pattern, found, rfl⟩ := (fieldOf_eq_ok_iff_of_mem same plain simple ends).mp read
      rw [same]
      exact .valued plain simple ends found
    · rw [fieldOf_of_not_mem marked] at read
      split at read
      · contradiction
      · rename_i filled
        rw [← Except.ok.inj read]
        have named := IsField.named (by simpa using filled) marked
        rwa [String.ofList_toList] at named
  · generalize spelled : content.toList = characters
    intro isField
    cases isField with
    | named filled plain =>
        subst spelled
        have nonempty : ¬content.isEmpty := by simpa using filled
        rw [fieldOf_of_not_mem plain, if_neg nonempty, String.ofList_toList]
    | valued plain simple ends found =>
        exact (fieldOf_eq_ok_iff_of_mem spelled plain simple ends).mpr ⟨_, found, rfl⟩

namespace State

/-- What stands after a sign of equality ends a directive. -/
theorem readOn_threshold_eq_ok_iff :
    (threshold (place + 1)).readOn text { target?, span?, field? } first characters =
        .ok directive ↔
      ∃ threshold, IsLimit text place ('=' :: characters) threshold ∧
        directive = { target?, span?, field?, threshold } := by
  -- The threshold is cut out at the end, whatever its characters are.
  have toEnd : (threshold (place + 1)).readOn text { target?, span?, field? } first characters =
      (threshold (place + 1)).finish text { target?, span?, field? } := by
    induction characters generalizing first with
    | nil => rfl
    | cons character rest ih => rw [readOn_cons_of_take rfl, ih]
  rw [toEnd, finish, exceptBind_eq_ok_iff]
  constructor
  · rintro ⟨part, found, ends⟩
    split at ends
    · rename_i empty
      rw [String.isEmpty_iff] at empty
      subst empty
      exact ⟨_, .empty found, (Except.ok.inj ends).symm⟩
    · split at ends
      · rename_i threshold same
        have spelled := Threshold.parse?_eq_some_iff.mp same
        exact ⟨threshold, .given found spelled, (Except.ok.inj ends).symm⟩
      · contradiction
  · rintro ⟨threshold, limit, rfl⟩
    cases limit with
    | empty found => exact ⟨"", found, rfl⟩
    | @given _ part _ found spelled =>
        have same := Threshold.parse?_eq_some_iff.mpr spelled
        have filled : ¬part.isEmpty := by
          rw [String.isEmpty_iff]
          rintro rfl
          contradiction
        refine ⟨part, found, ?_⟩
        rw [if_neg filled, same]
        rfl

/-- So does what stands after the brackets. -/
theorem readOn_scopeEnd_eq_ok_iff :
    scopeEnd.readOn text { target?, span?, field? } place characters = .ok directive ↔
      ∃ threshold, IsLimit text place characters threshold ∧
        directive = { target?, span?, field?, threshold } := by
  cases characters with
  | nil =>
      constructor
      · intro ends
        exact ⟨_, .missing, (Except.ok.inj ends).symm⟩
      · rintro ⟨threshold, ⟨⟩, rfl⟩
        rfl
  | cons character rest =>
      by_cases equal : character = '='
      · subst equal
        have takes : scopeEnd.take text { target?, span?, field? } place '=' =
            .ok (.threshold (place + 1), { target?, span?, field? }) :=
          rfl
        rw [readOn_cons_of_take takes, readOn_threshold_eq_ok_iff]
      · rw [readOn_cons, take, if_neg equal]
        refine ⟨nofun, ?_⟩
        rintro ⟨threshold, limit, -⟩
        cases limit <;> contradiction

theorem readOn_fieldEnd_eq_ok_iff :
    fieldEnd.readOn text read place characters = .ok directive ↔
      ∃ rest, characters = ']' :: rest ∧
        scopeEnd.readOn text read (place + 1) rest = .ok directive := by
  cases characters with
  | nil => exact ⟨nofun, fun ⟨_, empty, _⟩ => absurd empty nofun⟩
  | cons character rest =>
      by_cases closes : character = ']'
      · subst closes
        have takes : fieldEnd.take text read place ']' = .ok (.scopeEnd, read) := rfl
        rw [readOn_cons_of_take takes]
        exact ⟨fun reads => ⟨rest, rfl, reads⟩, fun ⟨_, same, reads⟩ =>
          (List.cons.inj same).2 ▸ reads⟩
      · rw [readOn_cons, take, if_neg closes]
        exact ⟨nofun, fun ⟨_, same, _⟩ => absurd (List.cons.inj same).1 closes⟩

/-- A field goes up to its brace, after which its scope ends. -/
theorem readOn_field_eq_ok_iff :
    (field first).readOn text read place characters = .ok directive ↔
      ∃ inner rest content field, characters = inner ++ '\x7d' :: ']' :: rest ∧
        List.Disjoint ['\x7d'] inner ∧ cut text first (place + utf8Len inner) = .ok content ∧
        IsField content.toList field ∧
        scopeEnd.readOn text { read with field? := some field } (place + utf8Len inner + 1 + 1)
          rest = .ok directive := by
  have stays (place : Nat) (character : Char) (other : character ∉ ['\x7d']) :
      (field first).take text read place character = .ok (field first, read) := by
    rw [List.mem_singleton] at other
    rw [take, if_neg other]
  rw [readOn_eq_ok_iff ['\x7d'] stays]
  constructor
  · rintro (⟨-, ends⟩ | ⟨inner, mark, others, rfl, apart, among, reads⟩)
    · contradiction
    · obtain rfl := List.mem_singleton.mp among
      rw [readOn_cons] at reads
      obtain ⟨⟨next, taken⟩, takes, reads⟩ := exceptBind_eq_ok_iff.mp reads
      obtain ⟨content, there, found⟩ := exceptBind_eq_ok_iff.mp takes
      obtain ⟨field, isField, same⟩ := exceptBind_eq_ok_iff.mp found
      obtain ⟨rfl, rfl⟩ := Prod.mk.inj (Except.ok.inj same)
      obtain ⟨rest, rfl, ended⟩ := readOn_fieldEnd_eq_ok_iff.mp reads
      exact ⟨inner, rest, content, field, rfl, apart, there, fieldOf_eq_ok_iff.mp isField, ended⟩
  · rintro ⟨inner, rest, content, field, rfl, apart, there, isField, ended⟩
    have takes : (State.field first).take text read (place + utf8Len inner) '\x7d' =
        .ok (fieldEnd, { read with field? := some field }) :=
      exceptBind_eq_ok_iff.mpr
        ⟨content, there, exceptBind_eq_ok_iff.mpr ⟨field, fieldOf_eq_ok_iff.mpr isField, rfl⟩⟩
    refine .inr ⟨inner, '\x7d', ']' :: rest, rfl, apart, List.mem_singleton_self _, ?_⟩
    rw [readOn_cons_of_take takes]
    exact readOn_fieldEnd_eq_ok_iff.mpr ⟨rest, rfl, ended⟩

/-- The name of a span goes up to the end of its scope or to the brace of a field. -/
theorem readOn_span_eq_ok_iff :
    (span first).readOn text read place characters = .ok directive ↔
      ∃ name rest part, List.Disjoint [']', '\x7b'] name ∧
        cut text first (place + utf8Len name) = .ok part ∧
        (characters = name ++ ']' :: rest ∧
            scopeEnd.readOn text { read with span? := some part } (place + utf8Len name + 1)
              rest = .ok directive ∨
          characters = name ++ '\x7b' :: rest ∧
            (field (place + utf8Len name + 1)).readOn text
              { read with span? := if part.isEmpty then none else some part }
              (place + utf8Len name + 1) rest = .ok directive) := by
  have stays (place : Nat) (character : Char) (other : character ∉ [']', '\x7b']) :
      (span first).take text read place character = .ok (span first, read) := by
    rw [List.mem_pair, not_or] at other
    rw [take, if_neg other.1, if_neg other.2]
  rw [readOn_eq_ok_iff [']', '\x7b'] stays]
  constructor
  · rintro (⟨-, ends⟩ | ⟨name, mark, rest, rfl, apart, among, reads⟩)
    · contradiction
    · rcases List.mem_pair.mp among with rfl | rfl
      · obtain ⟨part, there, reads⟩ := (readOn_cons_eq_ok_iff_of_cut rfl).mp reads
        exact ⟨name, rest, part, apart, there, .inl ⟨rfl, reads⟩⟩
      · obtain ⟨part, there, reads⟩ := (readOn_cons_eq_ok_iff_of_cut rfl).mp reads
        exact ⟨name, rest, part, apart, there, .inr ⟨rfl, reads⟩⟩
  · rintro ⟨name, rest, part, apart, there, ⟨rfl, reads⟩ | ⟨rfl, reads⟩⟩
    · exact .inr ⟨name, ']', rest, rfl, apart, by decide,
        (readOn_cons_eq_ok_iff_of_cut rfl).mpr ⟨part, there, reads⟩⟩
    · exact .inr ⟨name, '\x7b', rest, rfl, apart, by decide,
        (readOn_cons_eq_ok_iff_of_cut rfl).mpr ⟨part, there, reads⟩⟩

/-- A word goes up to a sign of equality or to a bracket, or it is all there is. -/
theorem readOn_word_eq_ok_iff :
    (word first).readOn text read place characters = .ok directive ↔
      List.Disjoint ['=', '['] characters ∧ (word first).finish text read = .ok directive ∨
        ∃ name rest target, List.Disjoint ['=', '['] name ∧
          cut text first (place + utf8Len name) = .ok target ∧
          (characters = name ++ '=' :: rest ∧
              (threshold (place + utf8Len name + 1)).readOn text
                { read with target? := some target } (place + utf8Len name + 1) rest =
                  .ok directive ∨
            characters = name ++ '[' :: rest ∧
              (span (place + utf8Len name + 1)).readOn text
                { read with target? := some target } (place + utf8Len name + 1) rest =
                  .ok directive) := by
  have stays (place : Nat) (character : Char) (other : character ∉ ['=', '[']) :
      (word first).take text read place character = .ok (word first, read) := by
    rw [List.mem_pair, not_or] at other
    rw [take, if_neg other.1, if_neg other.2]
  rw [readOn_eq_ok_iff ['=', '['] stays]
  refine or_congr_right ⟨?_, ?_⟩
  · rintro ⟨name, mark, rest, rfl, apart, among, reads⟩
    rcases List.mem_pair.mp among with rfl | rfl
    · obtain ⟨target, there, reads⟩ := (readOn_cons_eq_ok_iff_of_cut rfl).mp reads
      exact ⟨name, rest, target, apart, there, .inl ⟨rfl, reads⟩⟩
    · obtain ⟨target, there, reads⟩ := (readOn_cons_eq_ok_iff_of_cut rfl).mp reads
      exact ⟨name, rest, target, apart, there, .inr ⟨rfl, reads⟩⟩
  · rintro ⟨name, rest, target, apart, there, ⟨rfl, reads⟩ | ⟨rfl, reads⟩⟩
    · exact ⟨name, '=', rest, rfl, apart, by decide,
        (readOn_cons_eq_ok_iff_of_cut rfl).mpr ⟨target, there, reads⟩⟩
    · exact ⟨name, '[', rest, rfl, apart, by decide,
        (readOn_cons_eq_ok_iff_of_cut rfl).mpr ⟨target, there, reads⟩⟩

/-- From a bracket on there is a scope and what ends a directive. -/
theorem readOn_scope_eq_ok_iff :
    (span (place + 1)).readOn text { target? } (place + 1) characters = .ok directive ↔
      ∃ scope rest span? field? threshold, '[' :: characters = scope ++ rest ∧
        IsScope text place scope span? field? ∧
        IsLimit text (place + utf8Len scope) rest threshold ∧
        directive = { target?, span?, field?, threshold } := by
  -- Brackets and braces are of one byte each, so the place behind them is counted by ones.
  have spanStop (name : List Char) :
      place + utf8Len ('[' :: name ++ [']']) = place + 1 + utf8Len name + 1 := by
    have one : '['.utf8Size = 1 ∧ ']'.utf8Size = 1 := by decide
    simp only [List.cons_append, String.utf8Len_cons, String.utf8Len_append, String.utf8Len_nil]
    omega
  have fieldStop (name inner : List Char) :
      place + utf8Len ('[' :: name ++ '\x7b' :: inner ++ ['\x7d', ']']) =
        place + 1 + utf8Len name + 1 + utf8Len inner + 1 + 1 := by
    have one : '['.utf8Size = 1 ∧ ']'.utf8Size = 1 ∧ '\x7b'.utf8Size = 1 ∧
        '\x7d'.utf8Size = 1 := by
      decide
    simp only [List.cons_append, String.utf8Len_cons, String.utf8Len_append, String.utf8Len_nil]
    omega
  rw [readOn_span_eq_ok_iff]
  constructor
  · rintro ⟨name, rest, part, apart, there, ⟨rfl, reads⟩ | ⟨rfl, reads⟩⟩
    · obtain ⟨threshold, limit, rfl⟩ := readOn_scopeEnd_eq_ok_iff.mp reads
      refine ⟨_, rest, _, _, threshold, ?_, .span apart there, ?_, rfl⟩
      · simp
      · rwa [spanStop]
    · obtain ⟨inner, others, content, field, rfl, closed, here, isField, ended⟩ :=
        readOn_field_eq_ok_iff.mp reads
      obtain ⟨threshold, limit, rfl⟩ := readOn_scopeEnd_eq_ok_iff.mp ended
      refine ⟨_, others, _, _, threshold, ?_, .field apart there closed here isField, ?_, rfl⟩
      · simp
      · rwa [fieldStop]
  · rintro ⟨scope, rest, span?, field?, threshold, same, isScope, limit, rfl⟩
    cases isScope with
    | @span name part apart there =>
        rw [spanStop] at limit
        refine ⟨name, rest, part, apart, there, .inl ⟨?_, ?_⟩⟩
        · simpa using same
        · exact readOn_scopeEnd_eq_ok_iff.mpr ⟨threshold, limit, rfl⟩
    | @field name inner part content field apart there closed here isField =>
        rw [fieldStop] at limit
        refine ⟨name, inner ++ '\x7d' :: ']' :: rest, part, apart, there, .inr ⟨?_, ?_⟩⟩
        · simpa using same
        · exact readOn_field_eq_ok_iff.mpr ⟨inner, rest, content, field, rfl, closed, here,
            isField, readOn_scopeEnd_eq_ok_iff.mpr ⟨threshold, limit, rfl⟩⟩

end State

/-! ## The whole -/

theorem not_mayStart : ¬mayStart '=' ∧ ¬mayStart '[' := by
  decide +kernel

theorem IsTarget.exists_cons {word : List Char} (isTarget : IsTarget word) :
    ∃ first rest, word = first :: rest ∧ mayStart first := by
  obtain ⟨first, head, may⟩ := isTarget.starts
  exact ⟨first, word.tail, List.eq_cons_of_mem_head? head, may⟩

theorem IsTarget.of_starts {word rest : List Char} {mark : Char}
    (starts : ∃ first ∈ (word ++ mark :: rest).head?, mayStart first) (stops : ¬mayStart mark)
    (unmarked : List.Disjoint ['=', '['] word) : IsTarget word := by
  cases word with
  | nil =>
      obtain ⟨first, same, may⟩ := starts
      exact absurd (Option.some.inj same ▸ may) stops
  | cons first others => exact ⟨starts, unmarked⟩

theorem IsScope.exists_cons {scope : List Char} (isScope : IsScope text place scope span? field?) :
    ∃ rest, scope = '[' :: rest := by
  cases isScope with
  | span => exact ⟨_, rfl⟩
  | field => exact ⟨_, rfl⟩

/-- A directive starts like a target, or it has none. -/
theorem IsWritten.starts_or_spanned (written : IsWritten text characters directive) :
    (∃ first rest, characters = first :: rest ∧ mayStart first) ∨
      ∃ scope rest span? field? threshold, characters = scope ++ rest ∧
        IsScope text 0 scope span? field? ∧ IsLimit text (utf8Len scope) rest threshold ∧
        directive = { span?, field?, threshold } := by
  cases written with
  | threshold isTarget => exact .inl isTarget.exists_cons
  | target isTarget => exact .inl isTarget.exists_cons
  | limited isTarget =>
      obtain ⟨first, more, rfl, may⟩ := isTarget.exists_cons
      exact .inl ⟨first, _, rfl, may⟩
  | spanned isScope limit => exact .inr ⟨_, _, _, _, _, rfl, isScope, limit, rfl⟩
  | within isTarget =>
      obtain ⟨first, more, rfl, may⟩ := isTarget.exists_cons
      exact .inl ⟨first, _, rfl, may⟩

/-- A text can always be cut out of itself. -/
theorem cut_whole (text : String) : cut text 0 text.utf8ByteSize = .ok text := by
  have stands : Text.Stands text.toList 0 text.utf8ByteSize text.toList :=
    ⟨[], [], by simp, rfl, String.utf8Len_toList text⟩
  have whole := (Text.cut_eq_ok_iff (Nat.zero_le _) (String.utf8Len_toList text).ge).mpr stands
  rw [cut, whole]
  rfl

namespace State

theorem finish_word_eq_ok_iff :
    (word 0).finish text {} = .ok directive ↔
      (∃ threshold : Threshold, threshold.IsSpelledBy text ∧ directive = { threshold }) ∨
        (∀ threshold : Threshold, ¬threshold.IsSpelledBy text) ∧
          directive = { target? := some text } := by
  rw [finish, cut_whole, exceptBind_eq_ok_iff]
  rw [← Threshold.parse?_eq_none_iff]
  simp only [← Threshold.parse?_eq_some_iff]
  cases parsed : Threshold.parse? text with
  | none => simp [parsed, pure, Except.pure, eq_comm]
  | some threshold => simp [parsed, pure, Except.pure, eq_comm]

/-- What begins like a target is read as a word. -/
theorem readOn_start_eq {character : Char} {rest : List Char} (starts : mayStart character) :
    start.readOn text {} 0 (character :: rest) =
      (word 0).readOn text {} 0 (character :: rest) := by
  have noSign : character ≠ '=' := by
    rintro rfl
    exact not_mayStart.1 starts
  have noBracket : character ≠ '[' := by
    rintro rfl
    exact not_mayStart.2 starts
  have started : start.take text {} 0 character = .ok (word 0, {}) := by
    rw [take, if_neg noBracket, if_pos starts]
  have goesOn : (word 0).take text {} 0 character = .ok (word 0, {}) := by
    rw [take, if_neg noSign, if_neg noBracket]
  rw [readOn_cons_of_take started, readOn_cons_of_take goesOn]

/-- From a character on that starts a target, a directive is read as it is written. -/
theorem readOn_target_eq_ok_iff (starts : ∃ first ∈ characters.head?, mayStart first) :
    (word 0).readOn text {} 0 characters = .ok directive ↔
      IsWritten text characters directive := by
  rw [readOn_word_eq_ok_iff, finish_word_eq_ok_iff]
  simp only [Nat.zero_add]
  constructor
  · rintro (⟨apart, ⟨threshold, parsed, rfl⟩ | ⟨parsed, rfl⟩⟩ |
      ⟨name, rest, target, apart, there, ⟨rfl, reads⟩ | ⟨rfl, reads⟩⟩)
    · exact .threshold ⟨starts, apart⟩ parsed
    · exact .target ⟨starts, apart⟩ parsed
    · obtain ⟨threshold, limit, rfl⟩ := readOn_threshold_eq_ok_iff.mp reads
      exact .limited (.of_starts starts not_mayStart.1 apart) there limit
    · obtain ⟨scope, others, span?, field?, threshold, same, isScope, limit, rfl⟩ :=
        readOn_scope_eq_ok_iff.mp reads
      have isTarget : IsTarget name := .of_starts starts not_mayStart.2 apart
      rw [same, ← List.append_assoc]
      exact .within isTarget there isScope limit
  · intro written
    cases written with
    | threshold isTarget parsed => exact .inl ⟨isTarget.unmarked, .inl ⟨_, parsed, rfl⟩⟩
    | target isTarget parsed => exact .inl ⟨isTarget.unmarked, .inr ⟨parsed, rfl⟩⟩
    | limited isTarget there limit =>
        exact .inr ⟨_, _, _, isTarget.unmarked, there, .inl ⟨rfl,
          readOn_threshold_eq_ok_iff.mpr ⟨_, limit, rfl⟩⟩⟩
    | spanned isScope limit =>
        obtain ⟨more, rfl⟩ := isScope.exists_cons
        obtain ⟨first, same, may⟩ := starts
        exact absurd (Option.some.inj same ▸ may) not_mayStart.2
    | @within name scope rest target span? field? threshold isTarget there isScope limit =>
        obtain ⟨more, rfl⟩ := isScope.exists_cons
        refine .inr ⟨name, more ++ rest, target, isTarget.unmarked, there, .inr ⟨by simp, ?_⟩⟩
        exact readOn_scope_eq_ok_iff.mpr
          ⟨'[' :: more, rest, span?, field?, threshold, rfl, isScope, limit, rfl⟩

/-- So is one from a bracket on. -/
theorem readOn_bracket_eq_ok_iff {rest : List Char} :
    (span 1).readOn text {} 1 rest = .ok directive ↔ IsWritten text ('[' :: rest) directive := by
  rw [readOn_scope_eq_ok_iff]
  simp only [Nat.zero_add]
  constructor
  · rintro ⟨scope, others, span?, field?, threshold, same, isScope, limit, rfl⟩
    rw [same]
    exact .spanned isScope limit
  · intro written
    rcases written.starts_or_spanned with ⟨first, more, same, may⟩ | spanned
    · exact absurd ((List.cons.inj same).1 ▸ may) not_mayStart.2
    · exact spanned

end State

/-- A text can be read as a directive exactly if it is written like one. -/
theorem parse_eq_ok_iff :
    parse text = .ok directive ↔ IsWritten text (Text.trim text.toList) directive := by
  rw [parse_eq_readOn]
  cases characters : Text.trim text.toList with
  | nil =>
      refine ⟨nofun, fun written => ?_⟩
      rcases written.starts_or_spanned with ⟨first, more, same, -⟩ |
        ⟨scope, rest, _, _, _, same, isScope, -⟩
      · contradiction
      · obtain ⟨more, rfl⟩ := isScope.exists_cons
        contradiction
  | cons character rest =>
      by_cases bracket : character = '['
      · subst bracket
        have started : State.start.take text {} 0 '[' = .ok (.span 1, {}) := rfl
        rw [State.readOn_cons_of_take started]
        exact State.readOn_bracket_eq_ok_iff
      by_cases starts : mayStart character
      · rw [State.readOn_start_eq starts]
        exact State.readOn_target_eq_ok_iff ⟨character, rfl, starts⟩
      · rw [State.readOn_cons, State.take, if_neg bracket, if_neg starts]
        refine ⟨nofun, fun written => ?_⟩
        rcases written.starts_or_spanned with ⟨first, more, same, may⟩ |
          ⟨scope, others, _, _, _, same, isScope, -⟩
        · exact absurd ((List.cons.inj same).1 ▸ may) starts
        · obtain ⟨more, rfl⟩ := isScope.exists_cons
          exact absurd (List.cons.inj same).1 bracket

end Directive

/-! ## Lists -/

theorem exceptMapM_eq_ok_iff {ε α β : Type} {read : α → Except ε β} {items : List α}
    {values : List β} :
    items.mapM read = .ok values ↔
      List.Forall₂ (fun item value => read item = .ok value) items values := by
  induction items generalizing values with
  | nil =>
      rw [List.forall₂_nil_left_iff]
      exact ⟨fun same => (Except.ok.inj same).symm, fun empty => empty ▸ rfl⟩
  | cons item rest ih =>
      rw [List.mapM_cons, exceptBind_eq_ok_iff, List.forall₂_cons_left_iff]
      constructor
      · rintro ⟨value, found, others⟩
        obtain ⟨more, read, same⟩ := exceptBind_eq_ok_iff.mp others
        exact ⟨value, more, found, ih.mp read, (Except.ok.inj same).symm⟩
      · rintro ⟨value, more, found, others, rfl⟩
        exact ⟨value, found, exceptBind_eq_ok_iff.mpr ⟨more, ih.mpr others, rfl⟩⟩

theorem directivePieces_eq (text : String) :
    directivePieces text =
      ((Text.split ',' text.toList).filter fun piece => piece ≠ []).map String.ofList := by
  unfold directivePieces
  induction Text.split ',' text.toList with
  | nil => rfl
  | cons piece rest ih =>
      rw [List.filterMap_cons, List.filter_cons, ih]
      cases piece <;> rfl

/-- A text is a list of directives: wherever there is anything between its commas, it is a
directive. -/
def IsDirectiveList (text : String) (directives : List Directive) : Prop :=
  ∃ pieces : List (List Char), pieces ≠ [] ∧ (∀ piece ∈ pieces, ',' ∉ piece) ∧
    text.toList = [','].intercalate pieces ∧
    List.Forall₂
      (fun piece => Directive.IsWritten (String.ofList piece) (Text.trim piece))
      (pieces.filter fun piece => piece ≠ []) directives

/-- The lists of directives can be read, and nothing else. -/
theorem readDirectives_eq_ok_iff {text : String} {directives : List Directive} :
    readDirectives text = .ok directives ↔ IsDirectiveList text directives := by
  have written : readDirectives text = .ok directives ↔
      List.Forall₂ (fun piece => Directive.IsWritten (String.ofList piece) (Text.trim piece))
        ((Text.split ',' text.toList).filter fun piece => piece ≠ []) directives := by
    rw [readDirectives, exceptMapM_eq_ok_iff, directivePieces_eq, List.forall₂_map_left_iff]
    simp only [Directive.parse_eq_ok_iff, String.toList_ofList]
  rw [written]
  constructor
  · intro each
    exact ⟨_, Text.split_ne_nil _ _, fun _ => Text.not_mem_of_mem_split,
      (Text.intercalate_split _ _).symm, each⟩
  · rintro ⟨pieces, some, apart, joined, each⟩
    rwa [joined, Text.split_intercalate some apart]

theorem Filter.parse_eq_ok_iff {text : String} {filter : Filter} :
    Filter.parse text = .ok filter ↔
      ∃ directives, IsDirectiveList text directives ∧ Filter.ofDirectives directives = filter := by
  rw [Filter.parse, exceptMap_eq_ok_iff]
  simp only [readDirectives_eq_ok_iff]

end Shortlink.Log
