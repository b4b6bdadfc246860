import Shortlink.Json.Skip
import Shortlink.Proofs.Json.Numbers
import Shortlink.Proofs.Json.Spelling

/-!
# What has been skipped

Skipping remembers only the containers that are open around the place reached.  What
has to follow there, up to the end of the outermost one, is said for every place and
every list of open containers; so each move of skipping can be looked at on its own.
What has been skipped in the end is a value.
-/

namespace Shortlink.Json

/-! ## Parts of containers -/

theorem separated_singleton (part : List UInt8) : separated [part] = part := by
  simp [separated]

theorem separated_cons (part : List UInt8) {parts : List (List UInt8)} (more : parts ≠ []) :
    separated (part :: parts) = part ++ 0x2C :: separated parts := by
  cases parts with
  | nil => contradiction
  | cons next others => simp [separated, List.intercalate_cons_cons]

theorem exists_separated (part : List UInt8) (parts : List (List UInt8)) :
    ∃ tail, separated (part :: parts) = part ++ tail := by
  by_cases last : parts = []
  · exact ⟨[], by rw [last, separated_singleton, List.append_nil]⟩
  · exact ⟨_, separated_cons part last⟩

/-- The byte that begins a container. -/
def Container.opening : Container → UInt8
  | .list => 0x5B
  | .object => 0x7B

/-- Bytes go from a place up to the end of the value that is due there. -/
inductive Spans : Place → List UInt8 → Prop
  /-- The value itself. -/
  | value (blanks : Blanks) {value : List UInt8} : IsValue value →
      Spans .value (blanks.val ++ value)
  /-- A colon and the value. -/
  | colon (blanks : Blanks) {bytes : List UInt8} : Spans .value bytes →
      Spans .colon (blanks.val ++ 0x3A :: bytes)
  /-- A name, a colon and the value. -/
  | name (blanks : Blanks) {name bytes : List UInt8} : IsContent name → Spans .colon bytes →
      Spans .name (blanks.val ++ 0x22 :: (name ++ 0x22 :: bytes))

/-- Bytes are an element of a list or a member of an object. -/
def IsPart (container : Container) (bytes : List UInt8) : Prop :=
  ∃ (spanned : List UInt8) (after : Blanks), Spans container.inside spanned ∧
    bytes = spanned ++ after.val

theorem IsPart.exists_element {bytes : List UInt8} (isPart : IsPart .list bytes) :
    ∃ element : Element, element.bytes = bytes ∧ IsValue element.value := by
  obtain ⟨spanned, after, spans, rfl⟩ := isPart
  cases spans with
  | @value before value isValue =>
      exact ⟨⟨before, value, after⟩, (List.append_assoc ..).symm, isValue⟩

theorem IsPart.exists_member {bytes : List UInt8} (isPart : IsPart .object bytes) :
    ∃ member : Member, member.bytes = bytes ∧ IsContent member.name ∧
      IsValue member.element.value := by
  obtain ⟨spanned, after, spans, rfl⟩ := isPart
  cases spans with
  | name before isContent spans =>
      cases spans with
      | colon between spans =>
          cases spans with
          | @value blanks value isValue =>
              refine ⟨⟨before, _, between, ⟨blanks, value, after⟩⟩, ?_, isContent, isValue⟩
              simp [Member.bytes, Element.bytes]

/-- Parts that all come from something come from a list of such things. -/
theorem exists_map_eq {α β : Type} {view : α → β} {good : α → Prop} {list : List β}
    (each : ∀ entry ∈ list, ∃ source, view source = entry ∧ good source) :
    ∃ sources : List α, sources.map view = list ∧ ∀ source ∈ sources, good source := by
  induction list with
  | nil => exact ⟨[], rfl, fun _ member => absurd member List.not_mem_nil⟩
  | cons first others ih =>
      obtain ⟨source, rfl, goodSource⟩ := each first List.mem_cons_self
      obtain ⟨sources, rfl, goodSources⟩ :=
        ih fun entry member => each entry (List.mem_cons_of_mem _ member)
      exact ⟨source :: sources, rfl, List.forall_mem_cons.mpr ⟨goodSource, goodSources⟩⟩

theorem isValue_of_blanks (container : Container) (blanks : Blanks) :
    IsValue (container.opening :: (blanks.val ++ [container.closing])) := by
  cases container with
  | list => exact .emptyList blanks
  | object => exact .emptyObject blanks

theorem isValue_of_parts {container : Container} {parts : List (List UInt8)} (some : parts ≠ [])
    (each : ∀ part ∈ parts, IsPart container part) :
    IsValue (container.opening :: (separated parts ++ [container.closing])) := by
  cases container with
  | list =>
      obtain ⟨elements, rfl, values⟩ :=
        exists_map_eq fun part member => (each part member).exists_element
      exact .list elements (by simpa using some) values
  | object =>
      obtain ⟨members, rfl, good⟩ :=
        exists_map_eq fun part member => (each part member).exists_member
      exact .object members (by simpa using some) (fun member inside => (good member inside).1)
        fun member inside => (good member inside).2

/-! ## What has to follow -/

/-- After a value inside of open containers, bytes close all of them and leave a rest. -/
def Finishes : List Container → List UInt8 → List UInt8 → Prop
  | [], bytes, rest => bytes = rest
  | container :: outer, bytes, rest =>
      ∃ (blanks : Blanks) (more : List UInt8), Finishes outer more rest ∧
        (bytes = blanks.val ++ container.closing :: more ∨
          ∃ parts, parts ≠ [] ∧ (∀ part ∈ parts, IsPart container part) ∧
            bytes = blanks.val ++ 0x2C :: (separated parts ++ container.closing :: more))

/-- From a place inside of open containers, bytes close all of them and leave a rest. -/
def Leads : Place → List Container → List UInt8 → List UInt8 → Prop
  | .after, [], _, _ | .opened, [], _, _ => True
  | .after, container :: outer, bytes, rest => Finishes (container :: outer) bytes rest
  | .opened, container :: outer, bytes, rest =>
      ∃ more, Finishes outer more rest ∧
        ((∃ blanks : Blanks, bytes = blanks.val ++ container.closing :: more) ∨
          ∃ parts, parts ≠ [] ∧ (∀ part ∈ parts, IsPart container part) ∧
            bytes = separated parts ++ container.closing :: more)
  | .value, opened, bytes, rest =>
      ∃ spanned more, Spans .value spanned ∧ Finishes opened more rest ∧ bytes = spanned ++ more
  | .name, opened, bytes, rest =>
      ∃ spanned more, Spans .name spanned ∧ Finishes opened more rest ∧ bytes = spanned ++ more
  | .colon, opened, bytes, rest =>
      ∃ spanned more, Spans .colon spanned ∧ Finishes opened more rest ∧ bytes = spanned ++ more

/-- What is left by a move closes all open containers and leaves a rest. -/
def Move.Leads (rest : List UInt8) : Move → Prop
  | .go place opened bytes => Json.Leads place opened bytes rest
  | .done bytes => bytes = rest

theorem finishes_of_ended {outer : List Container} {left rest : List UInt8}
    (leads : (Move.ended outer left).Leads rest) : Finishes outer left rest := by
  cases outer <;> exact leads

/-- A value and what follows it, inside of a container, are parts up to its end. -/
theorem exists_parts {container : Container} {outer : List Container}
    {spanned more rest : List UInt8} (spans : Spans container.inside spanned)
    (finishes : Finishes (container :: outer) more rest) :
    ∃ after, Finishes outer after rest ∧ ∃ parts, parts ≠ [] ∧
      (∀ part ∈ parts, IsPart container part) ∧
        spanned ++ more = separated parts ++ container.closing :: after := by
  obtain ⟨blanks, after, finishes, rfl | ⟨parts, some, each, rfl⟩⟩ := finishes
  · refine ⟨after, finishes, [spanned ++ blanks.val], List.cons_ne_nil _ _, ?_, ?_⟩
    · exact List.forall_mem_singleton.mpr ⟨spanned, blanks, spans, rfl⟩
    · rw [separated_singleton, List.append_assoc]
  · refine ⟨after, finishes, (spanned ++ blanks.val) :: parts, List.cons_ne_nil _ _, ?_, ?_⟩
    · exact List.forall_mem_cons.mpr ⟨⟨spanned, blanks, spans, rfl⟩, each⟩
    · rw [separated_cons _ some]
      simp

/-! ## What has been skipped -/

theorem skipWord_eq_ok_iff {letters bytes rest : List UInt8} :
    skipWord letters bytes = .ok rest ↔ bytes = letters ++ rest := by
  fun_induction skipWord letters bytes with
  | case1 bytes => simp
  | case2 => simp
  | case3 letter letters byte tail same ih =>
      rw [ih, eq_of_beq same]
      simp
  | case4 letter letters byte tail other =>
      rw [beq_iff_eq] at other
      simp [other]

theorem exists_value_of_skipScalar {first : UInt8} {bytes rest : List UInt8}
    (skipped : skipScalar first bytes = .ok rest) :
    ∃ value, IsValue value ∧ first :: bytes = value ++ rest := by
  unfold skipScalar at skipped
  split at skipped
  · rename_i isQuote
    obtain rfl := eq_of_beq isQuote
    obtain ⟨content, isContent, rfl⟩ := skipText_eq_ok_iff.mp skipped
    exact ⟨_, .text isContent, by simp⟩
  split at skipped
  · rename_i isWord
    obtain rfl := eq_of_beq isWord
    obtain rfl := skipWord_eq_ok_iff.mp skipped
    exact ⟨_, .null, rfl⟩
  split at skipped
  · rename_i isWord
    obtain rfl := eq_of_beq isWord
    obtain rfl := skipWord_eq_ok_iff.mp skipped
    exact ⟨_, .true, rfl⟩
  split at skipped
  · rename_i isWord
    obtain rfl := eq_of_beq isWord
    obtain rfl := skipWord_eq_ok_iff.mp skipped
    exact ⟨_, .false, rfl⟩
  split at skipped
  · rename_i isMinus
    obtain rfl := eq_of_beq isMinus
    obtain ⟨number, isUnsigned, rfl⟩ := exists_unsigned_of_skipNumber skipped
    exact ⟨_, .negative isUnsigned, rfl⟩
  split at skipped
  · obtain ⟨number, isUnsigned, whole⟩ := exists_unsigned_of_skipNumber skipped
    exact ⟨_, .unsigned isUnsigned, whole⟩
  · contradiction

/-- What has been opened is a value once it is closed. -/
theorem exists_value_of_opened {container : Container} {opened : List Container}
    {bytes rest : List UInt8} (leads : Leads .opened (container :: opened) bytes rest) :
    ∃ value more, IsValue value ∧ Finishes opened more rest ∧
      container.opening :: bytes = value ++ more := by
  obtain ⟨more, finishes, ⟨blanks, rfl⟩ | ⟨parts, some, each, rfl⟩⟩ := leads
  · exact ⟨_, more, isValue_of_blanks container blanks, finishes, by simp⟩
  · exact ⟨_, more, isValue_of_parts some each, finishes, by simp⟩

theorem exists_value_of_takeValue {opened : List Container} {bytes rest : List UInt8}
    {result : Move} (taken : takeValue opened bytes = .ok result) (leads : result.Leads rest) :
    ∃ value more, IsValue value ∧ Finishes opened more rest ∧ bytes = value ++ more := by
  unfold takeValue at taken
  split at taken
  · contradiction
  rename_i first tail
  split at taken
  · rename_i isBracket
    obtain rfl := eq_of_beq isBracket
    obtain rfl := Except.ok.inj taken
    exact exists_value_of_opened leads
  split at taken
  · rename_i isBrace
    obtain rfl := eq_of_beq isBrace
    obtain rfl := Except.ok.inj taken
    exact exists_value_of_opened leads
  cases skipped : skipScalar first tail with
  | error fault =>
      rw [skipped] at taken
      contradiction
  | ok left =>
      rw [skipped] at taken
      obtain rfl := Except.ok.inj taken
      obtain ⟨value, isValue, whole⟩ := exists_value_of_skipScalar skipped
      exact ⟨value, left, isValue, finishes_of_ended leads, whole⟩

theorem exists_name_of_takeName {opened : List Container} {bytes rest : List UInt8}
    {result : Move} (taken : takeName opened bytes = .ok result) (leads : result.Leads rest) :
    ∃ name spanned more, IsContent name ∧ Spans .colon spanned ∧ Finishes opened more rest ∧
      bytes = 0x22 :: (name ++ 0x22 :: spanned) ++ more := by
  unfold takeName at taken
  split at taken
  · contradiction
  rename_i first tail
  split at taken
  · rename_i isQuote
    obtain rfl := eq_of_beq isQuote
    cases skipped : skipText tail with
    | error fault =>
        rw [skipped] at taken
        contradiction
    | ok left =>
        rw [skipped] at taken
        obtain rfl := Except.ok.inj taken
        obtain ⟨name, isContent, rfl⟩ := skipText_eq_ok_iff.mp skipped
        obtain ⟨spanned, more, spans, finishes, rfl⟩ := leads
        exact ⟨name, spanned, more, isContent, spans, finishes, by simp⟩
  · contradiction

/-- Where the value or the name inside of a container is due, what is left is parts. -/
theorem leads_inside {container : Container} {opened : List Container} {bytes rest : List UInt8}
    (leads : Leads container.inside opened bytes rest) :
    ∃ spanned more, Spans container.inside spanned ∧ Finishes opened more rest ∧
      bytes = spanned ++ more := by
  cases container <;> exact leads

theorem leads_of_takeValue {opened : List Container} {bytes rest : List UInt8} {result : Move}
    (taken : takeValue opened (skipBlanks bytes) = .ok result) (leads : result.Leads rest) :
    Leads .value opened bytes rest := by
  obtain ⟨blanks, whole⟩ := exists_blanks bytes
  obtain ⟨value, more, isValue, finishes, left⟩ := exists_value_of_takeValue taken leads
  exact ⟨_, more, .value blanks isValue, finishes, by rw [whole, left, List.append_assoc]⟩

theorem leads_of_takeName {opened : List Container} {bytes rest : List UInt8} {result : Move}
    (taken : takeName opened (skipBlanks bytes) = .ok result) (leads : result.Leads rest) :
    Leads .name opened bytes rest := by
  obtain ⟨blanks, whole⟩ := exists_blanks bytes
  obtain ⟨name, spanned, more, isContent, spans, finishes, left⟩ :=
    exists_name_of_takeName taken leads
  exact ⟨_, more, .name blanks isContent spans, finishes, by rw [whole, left, List.append_assoc]⟩

/-- A move leads where what it leaves leads. -/
theorem leads_of_move {place : Place} {opened : List Container} {bytes rest : List UInt8}
    {result : Move} (moved : move place opened (skipBlanks bytes) = .ok result)
    (leads : result.Leads rest) : Leads place opened bytes rest := by
  cases place with
  | value => exact leads_of_takeValue moved leads
  | name => exact leads_of_takeName moved leads
  | colon =>
      simp only [move] at moved
      split at moved
      · contradiction
      rename_i first tail skipped
      obtain ⟨blanks, rfl⟩ := exists_blanks_of_skipBlanks skipped
      split at moved
      · rename_i isColon
        obtain rfl := eq_of_beq isColon
        obtain rfl := Except.ok.inj moved
        obtain ⟨spanned, more, spans, finishes, rfl⟩ := leads
        exact ⟨_, more, .colon blanks spans, finishes, by simp⟩
      · contradiction
  | opened =>
      cases opened with
      | nil => trivial
      | cons container outer =>
          simp only [move] at moved
          split at moved
          · contradiction
          rename_i first tail skipped
          split at moved
          · rename_i isClosing
            obtain rfl := eq_of_beq isClosing
            obtain rfl := Except.ok.inj moved
            obtain ⟨blanks, rfl⟩ := exists_blanks_of_skipBlanks skipped
            exact ⟨tail, finishes_of_ended leads, .inl ⟨blanks, rfl⟩⟩
          · -- The container does not end: it goes on as if a value or a name had been due.
            have inside : Leads container.inside (container :: outer) bytes rest := by
              cases container with
              | list => exact leads_of_takeValue (skipped ▸ moved) leads
              | object => exact leads_of_takeName (skipped ▸ moved) leads
            obtain ⟨spanned, more, spans, finishes, rfl⟩ := leads_inside inside
            obtain ⟨after, finishes, parts, some, each, left⟩ := exists_parts spans finishes
            exact ⟨after, finishes, .inr ⟨parts, some, each, left⟩⟩
  | after =>
      cases opened with
      | nil => trivial
      | cons container outer =>
          simp only [move] at moved
          split at moved
          · contradiction
          rename_i first tail skipped
          obtain ⟨blanks, rfl⟩ := exists_blanks_of_skipBlanks skipped
          split at moved
          · rename_i isClosing
            obtain rfl := eq_of_beq isClosing
            obtain rfl := Except.ok.inj moved
            exact ⟨blanks, tail, finishes_of_ended leads, .inl rfl⟩
          split at moved
          · rename_i isComma
            obtain rfl := eq_of_beq isComma
            obtain rfl := Except.ok.inj moved
            obtain ⟨spanned, more, spans, finishes, rfl⟩ := leads_inside leads
            obtain ⟨after, finishes, parts, some, each, left⟩ := exists_parts spans finishes
            exact ⟨blanks, after, finishes, .inr ⟨parts, some, each, by rw [left]⟩⟩
          · contradiction

theorem leads_of_skipFrom {place : Place} {opened : List Container} {bytes rest : List UInt8}
    (skipped : skipFrom place opened bytes = .ok rest) : Leads place opened bytes rest := by
  fun_induction skipFrom place opened bytes with
  | case1 => contradiction
  | case2 place opened bytes left moved => exact leads_of_move moved (Except.ok.inj skipped)
  | case3 place opened bytes next after left moved fewer ih =>
      exact leads_of_move moved (ih skipped)

/-- What has been skipped is a value with blanks in front. -/
theorem exists_value_of_skipValue {bytes rest : List UInt8} (skipped : skipValue bytes = .ok rest) :
    ∃ (blanks : Blanks) (value : List UInt8), IsValue value ∧
      bytes = blanks.val ++ (value ++ rest) := by
  obtain ⟨spanned, more, spans, rfl, rfl⟩ := leads_of_skipFrom skipped
  cases spans with
  | @value blanks value isValue => exact ⟨blanks, value, isValue, List.append_assoc ..⟩

end Shortlink.Json
