import Shortlink.Proofs.Json.Skipping

/-!
# Objects of strings

What is written is what the grammar allows: a string that is written spells its text, and
an object of strings has the members that were written.
-/

namespace Shortlink.Json

/-! ## Strings -/

theorem isContent_append_of_plain {bytes rest : List UInt8}
    (each : ∀ byte ∈ bytes, byte ≠ 0x22 ∧ byte ≠ 0x5C ∧ 0x20 ≤ byte)
    (isContent : IsContent rest) : IsContent (bytes ++ rest) := by
  induction bytes with
  | nil => exact isContent
  | cons byte others ih =>
      obtain ⟨⟨noQuote, noBackslash, noControl⟩, more⟩ := List.forall_mem_cons.mp each
      exact .byte noQuote noBackslash noControl (ih more)

theorem isContent_append_utf8EncodeChar {character : Char} {rest : List UInt8}
    (noQuote : character ≠ '"') (noBackslash : character ≠ '\\')
    (noControl : 0x20 ≤ character.toNat) (isContent : IsContent rest) :
    IsContent (String.utf8EncodeChar character ++ rest) := by
  refine isContent_append_of_plain (fun byte member => ?_) isContent
  have same (ascii : byte.toNat < 0x80) : byte.toNat = character.toNat := by
    have small : character.toNat < 0x80 := Nat.lt_of_not_le fun large =>
      Nat.not_lt_of_le (Utf8.le_toNat_of_mem_utf8EncodeChar large member) ascii
    rw [Utf8.utf8EncodeChar_of_ascii small] at member
    rw [List.mem_singleton.mp member]
    exact UInt8.toNat_ofNat_of_lt' (Nat.lt_trans small (by decide))
  refine ⟨?_, ?_, ?_⟩
  · rintro rfl
    exact noQuote (Char.toNat_inj.mp (same (by decide)).symm)
  · rintro rfl
    exact noBackslash (Char.toNat_inj.mp (same (by decide)).symm)
  · rw [UInt8.le_iff_toNat_le]
    refine Nat.le_of_not_lt fun small => Nat.not_lt_of_le noControl ?_
    rwa [← same (Nat.lt_trans small (by decide))]

/-- What spells a character may also stand unread. -/
theorem isContent_append {spelled rest : List UInt8} {character : Char}
    (spells : SpellsCharacter spelled character) (isContent : IsContent rest) :
    IsContent (spelled ++ rest) := by
  cases spells with
  | plain noQuote noBackslash noControl =>
      exact isContent_append_utf8EncodeChar noQuote noBackslash noControl isContent
  | letter member => exact .letter member isContent
  | unit denotes => exact .unit denotes isContent
  | pair denotesHigh _ _ denotesLow _ _ _ =>
      rw [List.cons_append, List.cons_append, List.append_assoc]
      exact .unit denotesHigh (.unit denotesLow isContent)

theorem isContent_of_spellsAll {content : List UInt8} {characters : List Char}
    (spells : SpellsAll content characters) : IsContent content := by
  induction spells with
  | nil => exact .nil
  | cons first _ ih => exact isContent_append first ih

theorem Spells.isContent {content : List UInt8} {text : String} (spells : Spells content text) :
    IsContent content :=
  isContent_of_spellsAll spells

theorem isValue_of_quotes {bytes : List UInt8} {text : String} (quotes : Quotes bytes text) :
    IsValue bytes := by
  obtain ⟨content, spells, rfl⟩ := quotes
  exact .text spells.isContent

/-- What is written between the quotes of a string. -/
def written (text : String) : List UInt8 :=
  Utf8.encode (text.toList.flatMap writtenCharacter)

theorem spells_written (text : String) : Spells (written text) text := by
  obtain ⟨content, spells, whole⟩ := readText_eq_ok_iff.mp (readText_written text [])
  have same : written text = content := List.append_cancel_right whole
  rwa [same]

theorem quotes_string (text : String) : Quotes (Utf8.ofString (string text)) text :=
  ⟨written text, spells_written text, ofString_string text⟩

/-! ## Objects -/

/-- Members spell names and strings, in their order. -/
inductive SpellFields : List Member → List (String × String) → Prop
  | nil : SpellFields [] []
  | cons {member : Member} {members : List Member} {name text : String}
      {fields : List (String × String)} :
      Spells member.name name → Quotes member.element.value text → SpellFields members fields →
        SpellFields (member :: members) ((name, text) :: fields)

/-- A document is an object with these names and strings, and no others. -/
def IsObjectOf (document : List UInt8) (fields : List (String × String)) : Prop :=
  ∃ (before after : Blanks) (members : List Member), SpellFields members fields ∧
    document = before.val ++ 0x7B :: (separated (members.map Member.bytes) ++ 0x7D :: after.val)

/-- No blanks. -/
def noBlanks : Blanks :=
  ⟨[], fun _ member => absurd member List.not_mem_nil⟩

/-- A member as it is written: its name, and the document that it holds. -/
def documentMember (name document : String) : Member :=
  { before := noBlanks
    name := written name
    between := noBlanks
    element := { before := noBlanks, value := Utf8.ofString document, after := noBlanks } }

theorem bytes_documentMember (name document : String) :
    (documentMember name document).bytes = Utf8.ofString (string name ++ ":" ++ document) := by
  have colon : Utf8.ofString ":" = [0x3A] := by decide
  rw [Utf8.ofString_append, Utf8.ofString_append, colon, ofString_string name]
  simp [Member.bytes, Element.bytes, documentMember, noBlanks, written]

/-- A member that holds a string, as it is written. -/
def writtenMember (field : String × String) : Member :=
  documentMember field.1 (string field.2)

@[simp]
theorem name_writtenMember (field : String × String) :
    (writtenMember field).name = written field.1 := by
  simp only [writtenMember, documentMember]

@[simp]
theorem value_writtenMember (field : String × String) :
    (writtenMember field).element.value = Utf8.ofString (string field.2) := by
  simp only [writtenMember, documentMember]

theorem spellFields_written (fields : List (String × String)) :
    SpellFields (fields.map writtenMember) fields := by
  induction fields with
  | nil => exact .nil
  | cons field rest ih =>
      obtain ⟨name, text⟩ := field
      refine .cons ?_ ?_ ih
      · rw [name_writtenMember]
        exact spells_written name
      · rw [value_writtenMember]
        exact quotes_string text

theorem ofString_intercalate (items : List String) :
    Utf8.ofString (",".intercalate items) = separated (items.map Utf8.ofString) := by
  induction items with
  | nil => decide
  | cons item rest ih =>
      cases rest with
      | nil => simp [separated_singleton]
      | cons next others =>
          have more : (next :: others).map Utf8.ofString ≠ [] := by simp
          have comma : Utf8.ofString "," = [0x2C] := by decide
          rw [String.intercalate_cons_cons, Utf8.ofString_append, Utf8.ofString_append, ih, comma,
            List.append_assoc, List.singleton_append]
          exact (separated_cons (Utf8.ofString item) more).symm

theorem ofString_object (members : List (String × String)) :
    Utf8.ofString (object members) =
      0x7B :: (separated ((members.map fun member =>
        documentMember member.1 member.2).map Member.bytes) ++ [0x7D]) := by
  have opening : Utf8.ofString "\x7b" = [0x7B] := by decide
  have closing : Utf8.ofString "\x7d" = [0x7D] := by decide
  rw [object, Utf8.ofString_append, Utf8.ofString_append, opening, closing, ofString_intercalate,
    List.map_map, List.map_map]
  simp only [Function.comp_def, bytes_documentMember, List.cons_append, List.nil_append]

/-- An object of strings that is written has the names and strings that were given. -/
theorem isObjectOf_object (fields : List (String × String)) :
    IsObjectOf (Utf8.ofString (object (fields.map fun (name, text) => (name, string text))))
      fields := by
  refine ⟨noBlanks, noBlanks, fields.map writtenMember, spellFields_written fields, ?_⟩
  rw [ofString_object, List.map_map, List.map_map, List.map_map]
  rfl

end Shortlink.Json
