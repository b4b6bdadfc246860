import Shortlink.Proofs.Json.Objects

/-!
# Documents of any depth

What a document holds, and what is held by the documents that are written: strings and
natural numbers that were given, and lists and objects of documents that hold what was
given.  No document holds two different things: of two readings the one ends each value
where the other does.
-/

namespace Shortlink.Json

/-- What a document holds. -/
inductive Data
  | text (text : String)
  | natural (number : Nat)
  | list (items : List Data)
  /-- Members with names, in their order. -/
  | object (fields : List (String × Data))

/-- Bytes are one document, and hold this. -/
inductive IsDocumentOf : List UInt8 → Data → Prop
  | text {content : List UInt8} {text : String} : Spells content text →
      IsDocumentOf (0x22 :: (content ++ [0x22])) (.text text)
  /-- A natural number, in decimal. -/
  | natural (number : Nat) : IsDocumentOf (Utf8.ofString (toString number)) (.natural number)
  /-- A list, each element of which holds something. -/
  | list (items : List (Element × Data)) : (∀ item ∈ items, IsDocumentOf item.1.value item.2) →
      IsDocumentOf (0x5B :: (separated (items.map (·.1.bytes)) ++ [0x5D]))
        (.list (items.map (·.2)))
  /-- An object, each member of which has a name and holds something. -/
  | object (members : List (Member × String × Data)) :
      (∀ member ∈ members, Spells member.1.name member.2.1) →
      (∀ member ∈ members, IsDocumentOf member.1.element.value member.2.2) →
        IsDocumentOf (0x7B :: (separated (members.map (·.1.bytes)) ++ [0x7D]))
          (.object (members.map (·.2)))

/-! ## What is written -/

theorem isDocumentOf_string (text : String) :
    IsDocumentOf (Utf8.ofString (string text)) (.text text) := by
  obtain ⟨content, spells, whole⟩ := quotes_string text
  rw [whole]
  exact .text spells

/-- An element as it is written. -/
def documentElement (document : String) : Element :=
  { before := noBlanks, value := Utf8.ofString document, after := noBlanks }

theorem bytes_documentElement (document : String) :
    (documentElement document).bytes = Utf8.ofString document := by
  rw [Element.bytes, documentElement, noBlanks, List.nil_append, List.append_nil]

theorem ofString_list (items : List String) :
    Utf8.ofString (list items) =
      0x5B :: (separated ((items.map documentElement).map Element.bytes) ++ [0x5D]) := by
  have opening : Utf8.ofString "[" = [0x5B] := by decide
  have closing : Utf8.ofString "]" = [0x5D] := by decide
  rw [list, Utf8.ofString_append, Utf8.ofString_append, opening, closing, ofString_intercalate,
    List.map_map]
  simp only [Function.comp_def, bytes_documentElement, List.cons_append, List.nil_append]

section Written

variable {α : Type} {items : List α} {name document : α → String} {data : α → Data}

/-- A list that is written holds what its items hold. -/
theorem isDocumentOf_list
    (each : ∀ item ∈ items, IsDocumentOf (Utf8.ofString (document item)) (data item)) :
    IsDocumentOf (Utf8.ofString (list (items.map document))) (.list (items.map data)) := by
  have isList := IsDocumentOf.list
    (items.map fun item => (documentElement (document item), data item))
    (List.forall_mem_map.mpr each)
  rw [ofString_list, List.map_map, List.map_map]
  rwa [List.map_map, List.map_map] at isList

/-- An object that is written holds what its members hold, under their names. -/
theorem isDocumentOf_object
    (each : ∀ item ∈ items, IsDocumentOf (Utf8.ofString (document item)) (data item)) :
    IsDocumentOf (Utf8.ofString (object (items.map fun item => (name item, document item))))
      (.object (items.map fun item => (name item, data item))) := by
  have isObject := IsDocumentOf.object
    (items.map fun item => (documentMember (name item) (document item), name item, data item))
    (List.forall_mem_map.mpr fun item _ => spells_written (name item))
    (List.forall_mem_map.mpr each)
  rw [ofString_object, List.map_map, List.map_map]
  rwa [List.map_map, List.map_map] at isObject

end Written

/-! ## Natural numbers -/

theorem encode_digitChar {digit : Nat} (small : digit < 10) :
    Utf8.encode [Nat.digitChar digit] = [UInt8.ofNat (0x30 + digit)] := by
  have each : ∀ digit < 10,
      Utf8.encode [Nat.digitChar digit] = [UInt8.ofNat (0x30 + digit)] := by decide
  exact each digit small

theorem isDigit_ofNat {digit : Nat} (small : digit < 10) :
    (0x30 ≤ UInt8.ofNat (0x30 + digit) ∧ UInt8.ofNat (0x30 + digit) ≤ 0x39) ∧
      (0 < digit → UInt8.ofNat (0x30 + digit) ≠ 0x30) := by
  have each : ∀ digit < 10,
      (0x30 ≤ UInt8.ofNat (0x30 + digit) ∧ UInt8.ofNat (0x30 + digit) ≤ 0x39) ∧
        (0 < digit → UInt8.ofNat (0x30 + digit) ≠ 0x30) := by decide
  exact each digit small

/-- A number that is not zero is written in digits, the first of which is not zero. -/
theorem isDigits_toDigits {number : Nat} (positive : 0 < number) :
    IsDigits (Utf8.encode (Nat.toDigits 10 number)) ∧
      (Utf8.encode (Nat.toDigits 10 number)).head? ≠ some 0x30 := by
  induction number using Nat.strongRecOn with
  | _ number ih =>
      by_cases small : number < 10
      · rw [Nat.toDigits_of_lt_base small, encode_digitChar small]
        obtain ⟨isDigit, noZero⟩ := isDigit_ofNat small
        exact ⟨⟨List.cons_ne_nil _ _, List.forall_mem_singleton.mpr isDigit⟩,
          fun zero => noZero positive (Option.some.inj zero)⟩
      · have large := Nat.le_of_not_lt small
        obtain ⟨⟨some, each⟩, noZero⟩ := ih (number / 10)
          (Nat.div_lt_self positive (by decide)) (Nat.div_pos large (by decide))
        have last := Nat.mod_lt number (show 10 > 0 by decide)
        rw [Nat.toDigits_of_base_le (by decide) large, Utf8.encode_append, encode_digitChar last]
        refine ⟨⟨List.append_ne_nil_of_left_ne_nil some _, ?_⟩, ?_⟩
        · exact List.forall_mem_append.mpr
            ⟨each, List.forall_mem_singleton.mpr (isDigit_ofNat last).1⟩
        · rwa [List.head?_append, List.head?_eq_some_head some, Option.some_or,
            ← List.head?_eq_some_head some]

/-- A natural number is written without superfluous zeros. -/
theorem isInteger_toString (number : Nat) : IsInteger (Utf8.ofString (toString number)) := by
  have digits : Utf8.ofString (toString number) = Utf8.encode (Nat.toDigits 10 number) := by
    rw [Utf8.ofString, ← Nat.toList_repr]
    rfl
  rw [digits]
  rcases Nat.eq_zero_or_pos number with rfl | positive
  · exact .inl (by decide)
  · exact .inr (isDigits_toDigits positive)

/-! ## Documents as values -/

theorem IsDocumentOf.isValue {bytes : List UInt8} {data : Data}
    (isDocument : IsDocumentOf bytes data) : IsValue bytes := by
  induction isDocument with
  | text spells => exact .text spells.isContent
  | natural number =>
      have parts := IsUnsigned.parts (isInteger_toString number) .none .none
      rw [List.append_nil, List.append_nil] at parts
      exact .unsigned parts
  | list items _ ih =>
      by_cases empty : items = []
      · subst empty
        exact .emptyList noBlanks
      · have isList := IsValue.list (items.map (·.1)) (by simpa using empty)
          (List.forall_mem_map.mpr ih)
        rwa [List.map_map] at isList
  | object members names _ ih =>
      by_cases empty : members = []
      · subst empty
        exact .emptyObject noBlanks
      · have isObject := IsValue.object (members.map (·.1)) (by simpa using empty)
          (List.forall_mem_map.mpr fun member inside => (names member inside).isContent)
          (List.forall_mem_map.mpr ih)
        rwa [List.map_map] at isObject

/-! ## One reading -/

/-- What follows an item of a list or an object: nothing, or a comma. -/
def Follows (rest : List UInt8) : Prop :=
  rest = [] ∨ ∃ more, rest = 0x2C :: more

theorem Follows.endsNumber {rest : List UInt8} (follows : Follows rest) : EndsNumber rest := by
  rcases follows with rfl | ⟨more, rfl⟩
  · exact fun byte found => nomatch found
  · exact endsNumber_cons rfl rfl (by decide)

theorem Follows.skipBlanks_eq {rest : List UInt8} (follows : Follows rest) :
    skipBlanks rest = rest := by
  rcases follows with rfl | ⟨more, rfl⟩
  · rfl
  · exact skipBlanks_cons rfl more

/-- Where a value ends is determined by its beginning. -/
theorem value_append_inj {value other rest more : List UInt8} (isValue : IsValue value)
    (isOther : IsValue other) (ends : EndsNumber rest) (endsToo : EndsNumber more)
    (same : value ++ rest = other ++ more) : value = other ∧ rest = more := by
  have skipped : skipFrom .value [] (value ++ rest) = .ok rest :=
    isSkipped_of_isValue isValue [] rest ends
  rw [same, isSkipped_of_isValue isOther [] more endsToo] at skipped
  obtain rfl := Except.ok.inj skipped
  exact ⟨List.append_cancel_right same, rfl⟩

theorem skipBlanks_element {element : Element} (isValue : IsValue element.value)
    (rest : List UInt8) :
    skipBlanks (element.bytes ++ rest) = element.value ++ (element.after.val ++ rest) := by
  obtain ⟨first, others, whole, visible, -⟩ := exists_cons_of_isValue isValue
  rw [Element.bytes, List.append_assoc, List.append_assoc, whole, List.cons_append,
    skipBlanks_blanks_cons _ visible]

theorem element_append_inj {element other : Element} {rest more : List UInt8}
    (isValue : IsValue element.value) (isOther : IsValue other.value) (follows : Follows rest)
    (followsToo : Follows more) (same : element.bytes ++ rest = other.bytes ++ more) :
    element.value = other.value ∧ rest = more := by
  have skipped := congrArg skipBlanks same
  rw [skipBlanks_element isValue, skipBlanks_element isOther] at skipped
  obtain ⟨sameValue, after⟩ := value_append_inj isValue isOther
    (endsNumber_blanks _ follows.endsNumber) (endsNumber_blanks _ followsToo.endsNumber) skipped
  have skippedAfter := congrArg skipBlanks after
  rw [skipBlanks_append, skipBlanks_append, follows.skipBlanks_eq, followsToo.skipBlanks_eq]
    at skippedAfter
  exact ⟨sameValue, skippedAfter⟩

/-- Where a text between quotes ends is determined by its beginning. -/
theorem Spells.append_inj {content other rest more : List UInt8} {text otherText : String}
    (spells : Spells content text) (spellsOther : Spells other otherText)
    (same : content ++ 0x22 :: rest = other ++ 0x22 :: more) : text = otherText ∧ rest = more := by
  have read : readText (content ++ 0x22 :: rest) = .ok (text, rest) :=
    readText_eq_ok_iff.mpr ⟨content, spells, rfl⟩
  rw [same, readText_eq_ok_iff.mpr ⟨other, spellsOther, rfl⟩] at read
  obtain ⟨sameText, sameRest⟩ := Prod.mk.inj (Except.ok.inj read)
  exact ⟨sameText.symm, sameRest.symm⟩

theorem skipBlanks_member (member : Member) (rest : List UInt8) :
    skipBlanks (member.bytes ++ rest) = 0x22 :: (member.name ++ 0x22 ::
      (member.between.val ++ 0x3A :: (member.element.bytes ++ rest))) := by
  rw [Member.bytes, List.append_assoc, List.cons_append, skipBlanks_blanks_cons _ rfl,
    List.append_assoc, List.cons_append, List.append_assoc, List.cons_append]

theorem member_append_inj {member other : Member} {name otherName : String}
    {rest more : List UInt8} (spells : Spells member.name name)
    (spellsOther : Spells other.name otherName) (isValue : IsValue member.element.value)
    (isOther : IsValue other.element.value) (follows : Follows rest) (followsToo : Follows more)
    (same : member.bytes ++ rest = other.bytes ++ more) :
    name = otherName ∧ member.element.value = other.element.value ∧ rest = more := by
  have skipped := congrArg skipBlanks same
  rw [skipBlanks_member, skipBlanks_member] at skipped
  obtain ⟨rfl, between⟩ := spells.append_inj spellsOther (List.tail_eq_of_cons_eq skipped)
  have colons := congrArg skipBlanks between
  rw [skipBlanks_blanks_cons _ rfl, skipBlanks_blanks_cons _ rfl] at colons
  exact ⟨rfl, element_append_inj isValue isOther follows followsToo
    (List.tail_eq_of_cons_eq colons)⟩

/-- What follows a part that has these parts after it. -/
def continued : List (List UInt8) → List UInt8
  | [] => []
  | part :: parts => 0x2C :: separated (part :: parts)

theorem separated_cons_eq (part : List UInt8) (parts : List (List UInt8)) :
    separated (part :: parts) = part ++ continued parts := by
  cases parts with
  | nil => rw [separated_singleton, continued, List.append_nil]
  | cons next others => rw [separated_cons part (List.cons_ne_nil _ _), continued]

theorem follows_continued (parts : List (List UInt8)) : Follows (continued parts) := by
  cases parts with
  | nil => exact .inl rfl
  | cons part others => exact .inr ⟨_, rfl⟩

theorem separated_eq_of_continued {parts others : List (List UInt8)}
    (same : continued parts = continued others) : separated parts = separated others := by
  cases parts <;> cases others
  · rfl
  · contradiction
  · contradiction
  · exact List.tail_eq_of_cons_eq same

/-- Items between commas are found again, as far as each of them is. -/
theorem map_eq_of_separated {α β : Type} {bytes : α → List UInt8} {view : α → β}
    {items others : List α} (some : ∀ item ∈ items, bytes item ≠ [])
    (someToo : ∀ other ∈ others, bytes other ≠ [])
    (each : ∀ item ∈ items, ∀ other ∈ others, ∀ rest more, Follows rest → Follows more →
      bytes item ++ rest = bytes other ++ more → view item = view other ∧ rest = more)
    (same : separated (items.map bytes) = separated (others.map bytes)) :
    items.map view = others.map view := by
  induction items generalizing others with
  | nil =>
      cases others with
      | nil => rfl
      | cons other others =>
          rw [List.map_cons, separated_cons_eq] at same
          exact absurd (List.append_eq_nil_iff.mp same.symm).1 (someToo other List.mem_cons_self)
  | cons item items ih =>
      cases others with
      | nil =>
          rw [List.map_cons, separated_cons_eq] at same
          exact absurd (List.append_eq_nil_iff.mp same).1 (some item List.mem_cons_self)
      | cons other others =>
          rw [List.map_cons, List.map_cons, separated_cons_eq, separated_cons_eq] at same
          obtain ⟨sameView, after⟩ := each item List.mem_cons_self other List.mem_cons_self _ _
            (follows_continued _) (follows_continued _) same
          rw [List.map_cons, List.map_cons, sameView, ih
            (fun item inside => some item (List.mem_cons_of_mem _ inside))
            (fun other inside => someToo other (List.mem_cons_of_mem _ inside))
            (fun item inside other insideToo => each item (List.mem_cons_of_mem _ inside) other
              (List.mem_cons_of_mem _ insideToo))
            (separated_eq_of_continued after)]

theorem cons_ne_natural {first : UInt8} (noDigit : isDigit first = false) (others : List UInt8)
    (number : Nat) : first :: others ≠ Utf8.ofString (toString number) := by
  intro same
  have parts := IsUnsigned.parts (isInteger_toString number) .none .none
  obtain ⟨digit, digits, whole, isDigit⟩ := parts.exists_cons
  rw [List.append_nil, List.append_nil, ← same] at whole
  exact ne_of_isDigit isDigit noDigit (List.head_eq_of_cons_eq whole).symm

theorem natural_inj {number other : Nat}
    (same : Utf8.ofString (toString number) = Utf8.ofString (toString other)) : number = other := by
  have texts := congrArg Utf8.toString? same
  rw [Utf8.toString?_ofString, Utf8.toString?_ofString] at texts
  have digits : Nat.toDigits 10 number = Nat.toDigits 10 other := by
    rw [← Nat.toList_repr, ← Nat.toList_repr]
    exact congrArg String.toList (Option.some.inj texts)
  calc number
    _ = Nat.ofDigitChars 10 (Nat.toDigits 10 number) 0 := Nat.ofDigitChars_ten_toDigits.symm
    _ = Nat.ofDigitChars 10 (Nat.toDigits 10 other) 0 := by rw [digits]
    _ = other := Nat.ofDigitChars_ten_toDigits

theorem Element.bytes_ne_nil {element : Element} (isValue : IsValue element.value) :
    element.bytes ≠ [] := by
  obtain ⟨first, others, whole, -, -⟩ := exists_cons_of_isValue isValue
  simp [Element.bytes, whole]

theorem Member.bytes_ne_nil (member : Member) : member.bytes ≠ [] := by
  simp [Member.bytes]

/-- No document holds two different things. -/
theorem IsDocumentOf.unique {bytes : List UInt8} {data other : Data}
    (isDocument : IsDocumentOf bytes data) (isOther : IsDocumentOf bytes other) : data = other := by
  generalize whole : bytes = written at isOther
  -- Documents of two kinds differ in their first bytes.
  induction isDocument generalizing other written with
  | text spells =>
      cases isOther
      case text spellsOther =>
        have content := List.append_cancel_right (List.tail_eq_of_cons_eq whole)
        exact congrArg Data.text (spells.unique (content ▸ spellsOther))
      case natural number => exact absurd whole (cons_ne_natural rfl _ number)
      all_goals exact absurd (List.head_eq_of_cons_eq whole) (by decide)
  | natural number =>
      cases isOther
      case natural other => exact congrArg Data.natural (natural_inj whole)
      all_goals exact absurd whole.symm (cons_ne_natural rfl _ number)
  | list items documents ih =>
      cases isOther
      case list others documentsToo =>
        refine congrArg Data.list (map_eq_of_separated ?_ ?_ ?_
          (List.append_cancel_right (List.tail_eq_of_cons_eq whole)))
        · exact fun item inside => Element.bytes_ne_nil (documents item inside).isValue
        · exact fun item inside => Element.bytes_ne_nil (documentsToo item inside).isValue
        · intro item inside other insideToo rest more follows followsToo same
          obtain ⟨sameValue, after⟩ := element_append_inj (documents item inside).isValue
            (documentsToo other insideToo).isValue follows followsToo same
          exact ⟨ih item inside _ sameValue (documentsToo other insideToo), after⟩
      case natural number => exact absurd whole (cons_ne_natural rfl _ number)
      all_goals exact absurd (List.head_eq_of_cons_eq whole) (by decide)
  | object members names documents ih =>
      cases isOther
      case object others namesToo documentsToo =>
        refine congrArg Data.object (map_eq_of_separated ?_ ?_ ?_
          (List.append_cancel_right (List.tail_eq_of_cons_eq whole)))
        · exact fun member _ => member.1.bytes_ne_nil
        · exact fun member _ => member.1.bytes_ne_nil
        · intro member inside other insideToo rest more follows followsToo same
          obtain ⟨sameName, sameValue, after⟩ := member_append_inj (names member inside)
            (namesToo other insideToo) (documents member inside).isValue
            (documentsToo other insideToo).isValue follows followsToo same
          have sameData := ih member inside _ sameValue (documentsToo other insideToo)
          exact ⟨Prod.ext sameName sameData, after⟩
      case natural number => exact absurd whole (cons_ne_natural rfl _ number)
      all_goals exact absurd (List.head_eq_of_cons_eq whole) (by decide)

theorem IsDocumentOf.iff_eq {bytes : List UInt8} {data : Data}
    (isDocument : IsDocumentOf bytes data) (other : Data) :
    IsDocumentOf bytes other ↔ other = data :=
  ⟨fun isOther => isOther.unique isDocument, fun same => same ▸ isDocument⟩

end Shortlink.Json
