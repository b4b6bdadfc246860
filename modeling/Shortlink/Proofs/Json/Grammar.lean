import Shortlink.Text.Utf8

/-!
# The grammar of documents

Which bytes make up a document, said without reading them.  Blanks may stand between
the parts of a document.  A string whose text matters has to spell it in full; of a
string that nobody looks at, only the escapes and the absence of controls are asked
for, so that its surrogates and its UTF-8 may be in disorder.  Values nest without
limit.
-/

namespace Shortlink.Json

/-! ## Blanks and separators -/

/-- Blanks between the parts of a document: spaces, ends of lines and tabs. -/
abbrev Blanks :=
  { bytes : List UInt8 // ∀ byte ∈ bytes, byte ∈ [0x20, 0x0A, 0x09, 0x0D] }

/-- Items with a comma between each two. -/
def separated (items : List (List UInt8)) : List UInt8 :=
  [0x2C].intercalate items

/-! ## Strings -/

/-- The characters that have a letter of their own after a backslash. -/
def letterEscapes : List (UInt8 × Char) :=
  [(0x22, '"'), (0x5C, '\\'), (0x2F, '/'), (0x62, '\x08'), (0x66, '\x0c'), (0x6E, '\n'),
    (0x72, '\r'), (0x74, '\t')]

/-- A byte is the hexadecimal digit, in lower or upper case, of a value. -/
def IsHexDigit (byte : UInt8) (value : Nat) : Prop :=
  (Utf8.ofString "0123456789abcdef")[value]? = some byte ∨
    (Utf8.ofString "0123456789ABCDEF")[value]? = some byte

instance (byte : UInt8) (value : Nat) : Decidable (IsHexDigit byte value) :=
  inferInstanceAs (Decidable (_ ∨ _))

/-- Four hexadecimal digits denote a unit, the most significant digit being the first. -/
inductive DenotesUnit : List UInt8 → Nat → Prop
  | digits {first second third fourth : UInt8} {a b c d : Nat} :
      IsHexDigit first a → IsHexDigit second b → IsHexDigit third c → IsHexDigit fourth d →
        DenotesUnit [first, second, third, fourth] (a * 0x1000 + b * 0x100 + c * 0x10 + d)

/-- Bytes between quotes spell a character. -/
inductive SpellsCharacter : List UInt8 → Char → Prop
  /-- A character stands for itself unless it is a quote, a backslash or a control. -/
  | plain {character : Char} : character ≠ '"' → character ≠ '\\' → 0x20 ≤ character.toNat →
      SpellsCharacter (String.utf8EncodeChar character) character
  /-- A backslash and a letter. -/
  | letter {byte : UInt8} {character : Char} : (byte, character) ∈ letterEscapes →
      SpellsCharacter [0x5C, byte] character
  /-- An escape with the number of the character. -/
  | unit {digits : List UInt8} {character : Char} : DenotesUnit digits character.toNat →
      SpellsCharacter (0x5C :: 0x75 :: digits) character
  /-- Two escapes with the halves of a surrogate pair. -/
  | pair {first second : List UInt8} {high low : Nat} {character : Char} :
      DenotesUnit first high → 0xD800 ≤ high → high ≤ 0xDBFF →
      DenotesUnit second low → 0xDC00 ≤ low → low ≤ 0xDFFF →
      character.toNat = 0x10000 + (high - 0xD800) * 0x400 + (low - 0xDC00) →
        SpellsCharacter (0x5C :: 0x75 :: (first ++ 0x5C :: 0x75 :: second)) character

/-- Bytes between quotes spell characters, one after the other. -/
inductive SpellsAll : List UInt8 → List Char → Prop
  | nil : SpellsAll [] []
  | cons {spelled bytes : List UInt8} {character : Char} {characters : List Char} :
      SpellsCharacter spelled character → SpellsAll bytes characters →
        SpellsAll (spelled ++ bytes) (character :: characters)

/-- Bytes between quotes spell a text. -/
def Spells (content : List UInt8) (text : String) : Prop :=
  SpellsAll content text.toList

/-- Bytes are a string that spells a text. -/
def Quotes (bytes : List UInt8) (text : String) : Prop :=
  ∃ content, Spells content text ∧ bytes = 0x22 :: (content ++ [0x22])

/-- Bytes may stand between the quotes of a string that nobody looks at. -/
inductive IsContent : List UInt8 → Prop
  | nil : IsContent []
  /-- A byte that is no quote, no backslash and no control. -/
  | byte {byte : UInt8} {bytes : List UInt8} :
      byte ≠ 0x22 → byte ≠ 0x5C → 0x20 ≤ byte → IsContent bytes → IsContent (byte :: bytes)
  /-- A backslash and a letter. -/
  | letter {byte : UInt8} {character : Char} {bytes : List UInt8} :
      (byte, character) ∈ letterEscapes → IsContent bytes → IsContent (0x5C :: byte :: bytes)
  /-- An escape with any number. -/
  | unit {digits bytes : List UInt8} {number : Nat} :
      DenotesUnit digits number → IsContent bytes →
        IsContent (0x5C :: 0x75 :: (digits ++ bytes))

/-! ## Numbers -/

/-- Bytes are decimal digits, at least one. -/
def IsDigits (bytes : List UInt8) : Prop :=
  bytes ≠ [] ∧ ∀ byte ∈ bytes, 0x30 ≤ byte ∧ byte ≤ 0x39

/-- Bytes are an integer without a sign: it has no superfluous zero in front. -/
def IsInteger (bytes : List UInt8) : Prop :=
  bytes = [0x30] ∨ IsDigits bytes ∧ bytes.head? ≠ some 0x30

/-- Bytes are the fraction of a number, if any. -/
inductive IsFraction : List UInt8 → Prop
  | none : IsFraction []
  /-- A point and digits. -/
  | some {digits : List UInt8} : IsDigits digits → IsFraction (0x2E :: digits)

/-- Bytes are the exponent of a number, if any. -/
inductive IsExponent : List UInt8 → Prop
  | none : IsExponent []
  /-- A mark, perhaps a sign, and digits. -/
  | some {mark : UInt8} {sign digits : List UInt8} :
      mark ∈ [0x65, 0x45] → sign ∈ [[], [0x2B], [0x2D]] → IsDigits digits →
        IsExponent (mark :: (sign ++ digits))

/-- Bytes are a number without a sign. -/
inductive IsUnsigned : List UInt8 → Prop
  /-- An integer, perhaps with a fraction and an exponent. -/
  | parts {integer fraction exponent : List UInt8} :
      IsInteger integer → IsFraction fraction → IsExponent exponent →
        IsUnsigned (integer ++ (fraction ++ exponent))

/-! ## Values -/

/-- An element of a list: a value and the blanks around it. -/
structure Element where
  /-- The blanks in front of the value. -/
  before : Blanks
  value : List UInt8
  /-- The blanks after the value. -/
  after : Blanks

/-- The bytes of an element. -/
def Element.bytes (element : Element) : List UInt8 :=
  element.before.val ++ (element.value ++ element.after.val)

/-- A member of an object: its name and its value. -/
structure Member where
  /-- The blanks in front of the name. -/
  before : Blanks
  /-- What stands between the quotes of the name. -/
  name : List UInt8
  /-- The blanks between the name and the colon. -/
  between : Blanks
  /-- What follows the colon. -/
  element : Element

/-- The bytes of a member. -/
def Member.bytes (member : Member) : List UInt8 :=
  member.before.val ++
    0x22 :: (member.name ++ 0x22 :: (member.between.val ++ 0x3A :: member.element.bytes))

/-- Bytes are a value that nobody looks at. -/
inductive IsValue : List UInt8 → Prop
  | null : IsValue (Utf8.ofString "null")
  | true : IsValue (Utf8.ofString "true")
  | false : IsValue (Utf8.ofString "false")
  | unsigned {bytes : List UInt8} : IsUnsigned bytes → IsValue bytes
  | negative {bytes : List UInt8} : IsUnsigned bytes → IsValue (0x2D :: bytes)
  | text {content : List UInt8} : IsContent content → IsValue (0x22 :: (content ++ [0x22]))
  | emptyList (blanks : Blanks) : IsValue (0x5B :: (blanks.val ++ [0x5D]))
  | list (elements : List Element) : elements ≠ [] →
      (∀ element ∈ elements, IsValue element.value) →
        IsValue (0x5B :: (separated (elements.map Element.bytes) ++ [0x5D]))
  | emptyObject (blanks : Blanks) : IsValue (0x7B :: (blanks.val ++ [0x7D]))
  | object (members : List Member) : members ≠ [] →
      (∀ member ∈ members, IsContent member.name) →
      (∀ member ∈ members, IsValue member.element.value) →
        IsValue (0x7B :: (separated (members.map Member.bytes) ++ [0x7D]))

end Shortlink.Json
