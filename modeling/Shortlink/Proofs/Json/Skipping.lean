import Shortlink.Proofs.Json.Values

/-!
# What is skipped

Every value is skipped, at any depth.  The induction is on the value, and it has to be
about a value inside of any open containers: after the value, skipping resumes inside
of the same ones.
-/

namespace Shortlink.Json

/-! ## Moves -/

/-- What becomes of skipping after a value inside of open containers. -/
def resume (opened : List Container) (rest : List UInt8) : Except Fault (List UInt8) :=
  match opened with
  | [] => .ok rest
  | _ :: _ => skipFrom .after opened rest

theorem skipFrom_eq (place : Place) (opened : List Container) (bytes : List UInt8) :
    skipFrom place opened bytes =
      match move place opened (skipBlanks bytes) with
      | .error flawed => .error flawed
      | .ok (.done rest) => .ok rest
      | .ok (.go next after rest) => skipFrom next after rest := by
  rw [skipFrom]
  split <;> rename_i moved <;> simp only [moved]

theorem skipFrom_of_go {place next : Place} {opened after : List Container}
    {bytes rest : List UInt8}
    (moved : move place opened (skipBlanks bytes) = .ok (.go next after rest)) :
    skipFrom place opened bytes = skipFrom next after rest := by
  rw [skipFrom_eq, moved]

theorem skipFrom_of_ended {place : Place} {opened outer : List Container}
    {bytes rest : List UInt8}
    (moved : move place opened (skipBlanks bytes) = .ok (.ended outer rest)) :
    skipFrom place opened bytes = resume outer rest := by
  rw [skipFrom_eq, moved]
  cases outer <;> rfl

theorem skipFrom_blanks (place : Place) (opened : List Container) (blanks : Blanks)
    (bytes : List UInt8) :
    skipFrom place opened (blanks.val ++ bytes) = skipFrom place opened bytes := by
  rw [skipFrom_eq, skipBlanks_append, ← skipFrom_eq]

/-! ## Values that hold no others -/

/-- A value is skipped wherever it stands, if nothing follows that a number could go on with. -/
def IsSkipped (value : List UInt8) : Prop :=
  ∀ opened rest, EndsNumber rest → skipFrom .value opened (value ++ rest) = resume opened rest

theorem isSkipped_of_skipScalar {first : UInt8} {others : List UInt8}
    (visible : isBlank first = false) (noBracket : first ≠ 0x5B) (noBrace : first ≠ 0x7B)
    (skipped : ∀ rest, EndsNumber rest → skipScalar first (others ++ rest) = .ok rest) :
    IsSkipped (first :: others) := by
  intro opened rest ends
  apply skipFrom_of_ended
  rw [List.cons_append, skipBlanks_cons visible]
  change takeValue opened (first :: (others ++ rest)) = _
  rw [takeValue, if_neg (by rwa [beq_iff_eq]), if_neg (by rwa [beq_iff_eq]), skipped rest ends]
  rfl

theorem isBlank_of_isDigit {first : UInt8} (digit : isDigit first = true) :
    isBlank first = false := by
  rw [Bool.eq_false_iff, ne_eq, isBlank_iff]
  simp only [List.mem_cons, List.not_mem_nil, or_false, not_or]
  exact ⟨ne_of_isDigit digit rfl, ne_of_isDigit digit rfl, ne_of_isDigit digit rfl,
    ne_of_isDigit digit rfl⟩

theorem skipScalar_digit {first : UInt8} (digit : isDigit first = true) (rest : List UInt8) :
    skipScalar first rest = skipNumber (first :: rest) := by
  have other (byte : UInt8) (noDigit : isDigit byte = false) : ¬(first == byte) = true := by
    rw [beq_iff_eq]
    exact ne_of_isDigit digit noDigit
  rw [skipScalar, if_neg (other _ rfl), if_neg (other _ rfl), if_neg (other _ rfl),
    if_neg (other _ rfl), if_neg (other _ rfl), if_pos digit]

theorem isSkipped_unsigned {number : List UInt8} (isUnsigned : IsUnsigned number) :
    IsSkipped number := by
  obtain ⟨first, others, rfl, digit⟩ := isUnsigned.exists_cons
  apply isSkipped_of_skipScalar (isBlank_of_isDigit digit) (ne_of_isDigit digit rfl)
    (ne_of_isDigit digit rfl)
  intro rest ends
  rw [skipScalar_digit digit]
  exact skipNumber_append isUnsigned ends

theorem isSkipped_word {first : UInt8} {others : List UInt8}
    (visible : isBlank first = false) (noBracket : first ≠ 0x5B) (noBrace : first ≠ 0x7B)
    (word : ∀ rest, skipScalar first rest = skipWord others rest) :
    IsSkipped (first :: others) :=
  isSkipped_of_skipScalar visible noBracket noBrace fun rest _ => by
    rw [word, skipWord_eq_ok_iff]

theorem isSkipped_negative {number : List UInt8} (isUnsigned : IsUnsigned number) :
    IsSkipped (0x2D :: number) :=
  isSkipped_of_skipScalar rfl (by decide) (by decide) fun _ ends =>
    skipNumber_append isUnsigned ends

theorem isSkipped_text {content : List UInt8} (isContent : IsContent content) :
    IsSkipped (0x22 :: (content ++ [0x22])) := by
  apply isSkipped_of_skipScalar rfl (by decide) (by decide)
  intro rest _
  rw [List.append_assoc]
  exact skipText_content isContent rest

/-! ## Parts of containers -/

theorem endsNumber_blanks (blanks : Blanks) {rest : List UInt8} (ends : EndsNumber rest) :
    EndsNumber (blanks.val ++ rest) := by
  obtain ⟨bytes, blank⟩ := blanks
  cases bytes with
  | nil => exact ends
  | cons first others =>
      have isBlank := blank first List.mem_cons_self
      simp only [List.mem_cons, List.not_mem_nil, or_false] at isBlank
      rcases isBlank with rfl | rfl | rfl | rfl <;> exact endsNumber_cons rfl rfl (by decide)

theorem endsNumber_closing (container : Container) (rest : List UInt8) :
    EndsNumber (container.closing :: rest) := by
  cases container <;> exact endsNumber_cons rfl rfl (by decide)

/-- A part is passed inside of its container. -/
def IsPassed (container : Container) (part : List UInt8) : Prop :=
  ∀ outer rest, EndsNumber rest →
    skipFrom container.inside (container :: outer) (part ++ rest) =
      skipFrom .after (container :: outer) rest

theorem skipFrom_element {element : Element} (skipped : IsSkipped element.value)
    (container : Container) (outer : List Container) {rest : List UInt8}
    (ends : EndsNumber rest) :
    skipFrom .value (container :: outer) (element.bytes ++ rest) =
      skipFrom .after (container :: outer) rest := by
  rw [Element.bytes, List.append_assoc, List.append_assoc, skipFrom_blanks,
    skipped _ _ (endsNumber_blanks _ ends)]
  exact skipFrom_blanks ..

theorem isPassed_element {element : Element} (skipped : IsSkipped element.value) :
    IsPassed .list element.bytes :=
  fun outer _ ends => skipFrom_element skipped .list outer ends

theorem isPassed_member {member : Member} (isContent : IsContent member.name)
    (skipped : IsSkipped member.element.value) : IsPassed .object member.bytes := by
  intro outer rest ends
  have name := skipText_content isContent
    (member.between.val ++ 0x3A :: (member.element.bytes ++ rest))
  calc skipFrom .name (.object :: outer) (member.bytes ++ rest)
    _ = skipFrom .name (.object :: outer)
          (0x22 :: (member.name ++ 0x22 :: (member.between.val ++
            0x3A :: (member.element.bytes ++ rest)))) := by
        rw [Member.bytes, List.append_assoc, skipFrom_blanks]
        simp
    _ = skipFrom .colon (.object :: outer)
          (member.between.val ++ 0x3A :: (member.element.bytes ++ rest)) := by
        apply skipFrom_of_go
        rw [skipBlanks_cons rfl]
        change (skipText _).map _ = _
        rw [name]
        rfl
    _ = skipFrom .value (.object :: outer) (member.element.bytes ++ rest) := by
        rw [skipFrom_blanks]
        exact skipFrom_of_go rfl
    _ = skipFrom .after (.object :: outer) rest := skipFrom_element skipped .object outer ends

theorem skipFrom_parts {container : Container} {parts : List (List UInt8)} (some : parts ≠ [])
    (passed : ∀ part ∈ parts, IsPassed container part) (outer : List Container)
    (rest : List UInt8) :
    skipFrom container.inside (container :: outer)
        (separated parts ++ container.closing :: rest) = resume outer rest := by
  -- After the last part the container ends, and after any other one the next part is due.
  induction parts with
  | nil => contradiction
  | cons part others ih =>
      obtain ⟨first, passedOthers⟩ := List.forall_mem_cons.mp passed
      by_cases last : others = []
      · subst last
        rw [separated_singleton, first outer _ (endsNumber_closing container rest)]
        apply skipFrom_of_ended
        cases container <;> rfl
      · rw [separated_cons part last, List.append_assoc, List.cons_append,
          first outer _ (endsNumber_cons rfl rfl (by decide)), ← ih last passedOthers]
        apply skipFrom_of_go
        cases container <;> rfl

/-- A part does not begin like the end of its container. -/
def Begins (container : Container) (part : List UInt8) : Prop :=
  ∃ (blanks : Blanks) (first : UInt8) (others : List UInt8),
    part = blanks.val ++ first :: others ∧ isBlank first = false ∧ ¬first = container.closing

theorem skipFrom_opened {container : Container} {bytes : List UInt8}
    (begins : Begins container bytes) (outer : List Container) (rest : List UInt8) :
    skipFrom .opened (container :: outer) (bytes ++ rest) =
      skipFrom container.inside (container :: outer) (bytes ++ rest) := by
  obtain ⟨blanks, first, others, rfl, visible, further⟩ := begins
  have same : move .opened (container :: outer) (first :: (others ++ rest)) =
      move container.inside (container :: outer) (first :: (others ++ rest)) := by
    rw [← beq_iff_eq] at further
    cases container
    all_goals
      simp only [move, if_neg further]
      rfl
  rw [List.append_assoc, List.cons_append, skipFrom_eq, skipFrom_eq container.inside,
    skipBlanks_blanks_cons blanks visible, same]

/-! ## Containers -/

theorem skipFrom_opening (container : Container) (opened : List Container)
    (bytes : List UInt8) :
    skipFrom .value opened (container.opening :: bytes) =
      skipFrom .opened (container :: opened) bytes := by
  apply skipFrom_of_go
  cases container <;> rfl

theorem isSkipped_of_blanks (container : Container) (blanks : Blanks) :
    IsSkipped (container.opening :: (blanks.val ++ [container.closing])) := by
  intro opened rest ends
  rw [List.cons_append, List.append_assoc, skipFrom_opening, skipFrom_blanks]
  apply skipFrom_of_ended
  cases container <;> rfl

theorem isSkipped_of_parts {container : Container} {parts : List (List UInt8)}
    (some : parts ≠ []) (begins : ∀ part ∈ parts, Begins container part)
    (passed : ∀ part ∈ parts, IsPassed container part) :
    IsSkipped (container.opening :: (separated parts ++ [container.closing])) := by
  intro opened rest ends
  have beginning : Begins container (separated parts) := by
    obtain ⟨part, others, rfl⟩ := List.exists_cons_of_ne_nil some
    obtain ⟨blanks, first, more, rfl, visible, further⟩ := begins part List.mem_cons_self
    obtain ⟨tail, whole⟩ := exists_separated (blanks.val ++ first :: more) others
    exact ⟨blanks, first, more ++ tail, by rw [whole]; simp, visible, further⟩
  rw [List.cons_append, List.append_assoc, skipFrom_opening, skipFrom_opened beginning]
  exact skipFrom_parts some passed opened rest

/-! ## All values -/

/-- A value does not begin with a blank, nor like the end of a list. -/
theorem exists_cons_of_isValue {value : List UInt8} (isValue : IsValue value) :
    ∃ first others, value = first :: others ∧ isBlank first = false ∧ ¬first = 0x5D := by
  cases isValue with
  | unsigned isUnsigned =>
      obtain ⟨first, others, rfl, digit⟩ := isUnsigned.exists_cons
      exact ⟨first, others, rfl, isBlank_of_isDigit digit, ne_of_isDigit digit rfl⟩
  | _ => exact ⟨_, _, rfl, rfl, by decide⟩

theorem begins_element {element : Element} (isValue : IsValue element.value) :
    Begins .list element.bytes := by
  obtain ⟨first, others, whole, visible, further⟩ := exists_cons_of_isValue isValue
  exact ⟨element.before, first, others ++ element.after.val,
    by rw [Element.bytes, whole, List.cons_append], visible, further⟩

theorem begins_member (member : Member) : Begins .object member.bytes :=
  ⟨member.before, 0x22, _, rfl, rfl, by decide⟩

/-- Every value is skipped, however deep it nests. -/
theorem isSkipped_of_isValue {value : List UInt8} (isValue : IsValue value) :
    IsSkipped value := by
  induction isValue with
  | null => exact isSkipped_word rfl (by decide) (by decide) fun _ => rfl
  | true => exact isSkipped_word rfl (by decide) (by decide) fun _ => rfl
  | false => exact isSkipped_word rfl (by decide) (by decide) fun _ => rfl
  | unsigned isUnsigned => exact isSkipped_unsigned isUnsigned
  | negative isUnsigned => exact isSkipped_negative isUnsigned
  | text isContent => exact isSkipped_text isContent
  | emptyList blanks => exact isSkipped_of_blanks .list blanks
  | emptyObject blanks => exact isSkipped_of_blanks .object blanks
  | list elements some values ih =>
      refine @isSkipped_of_parts .list _ ?_ ?_ ?_
      · simpa using some
      · exact List.forall_mem_map.mpr fun element inside => begins_element (values element inside)
      · exact List.forall_mem_map.mpr fun element inside => isPassed_element (ih element inside)
  | object members some names values ih =>
      refine @isSkipped_of_parts .object _ ?_ ?_ ?_
      · simpa using some
      · exact List.forall_mem_map.mpr fun member _ => begins_member member
      · exact List.forall_mem_map.mpr fun member inside =>
          isPassed_member (names member inside) (ih member inside)

/-- Up to something that no number could go on with, exactly a value is skipped, with the
blanks in front of it. -/
theorem skipValue_eq_ok_iff {bytes rest : List UInt8} (ends : EndsNumber rest) :
    skipValue bytes = .ok rest ↔
      ∃ (blanks : Blanks) (value : List UInt8), IsValue value ∧
        bytes = blanks.val ++ (value ++ rest) := by
  constructor
  · exact exists_value_of_skipValue
  · rintro ⟨blanks, value, isValue, rfl⟩
    rw [skipValue, skipFrom_blanks]
    exact isSkipped_of_isValue isValue [] rest ends

end Shortlink.Json
