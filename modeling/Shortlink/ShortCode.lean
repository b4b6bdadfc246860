import Shortlink.Base62
import Shortlink.Text.Quoted

/-!
# Short codes

A short code is a base-62 numeral.  Codes are issued for numbers, in which case
they have no leading zeros, or parsed from text, in which case they may have
them and may denote a number of 2^64 or more.
-/

namespace Shortlink

namespace Base62

/-- Digits are written as single bytes that read back as digits. -/
theorem all_isDigit_digit (value : Nat) :
    (String.utf8EncodeChar (digit value)).all isDigit = true := by
  have each : ('0' :: alphabet).all
      (fun character => (String.utf8EncodeChar character).all isDigit) = true := by decide
  apply List.all_eq_true.mp each
  unfold digit
  rw [List.getD_eq_getElem?_getD]
  cases found : alphabet[value]? with
  | none => simp
  | some character => simp [List.mem_of_getElem? found]

/-- Writing a number adds only digits to what is already written. -/
theorem all_isDigit_digitsOnto (written : List Char) (number : Nat)
    (ready : (Utf8.encode written).all isDigit = true) :
    (Utf8.encode (digitsOnto written number)).all isDigit = true := by
  have extended (value : Nat) : (Utf8.encode (digit value :: written)).all isDigit = true := by
    rw [Utf8.encode, List.flatMap_cons, List.all_append, all_isDigit_digit]
    exact ready
  unfold digitsOnto
  split
  · exact extended number
  · exact all_isDigit_digitsOnto _ _ (extended (number % 62))
termination_by number

/-- What is written is never empty. -/
theorem digitsOnto_ne_nil (written : List Char) (number : Nat) :
    digitsOnto written number ≠ [] := by
  unfold digitsOnto
  split
  · simp
  · exact digitsOnto_ne_nil _ _
termination_by number

/-- The numeral of a number is a numeral. -/
theorem isNumeral_encode (number : UInt64) : isNumeral (encode number) = true := by
  have digitsOnly := all_isDigit_digitsOnto [] number.toNat rfl
  have notEmpty := digitsOnto_ne_nil [] number.toNat
  simp only [isNumeral, encode, digits, Utf8.ofString, String.toList_ofList, digitsOnly,
    Bool.and_true, Bool.not_eq_eq_eq_not, Bool.not_true]
  cases written : digitsOnto [] number.toNat with
  | nil => exact absurd written notEmpty
  | cons first rest => simp

end Base62

/-- A base-62 numeral that names an entry. -/
structure ShortCode where
  text : String
  /-- It is not empty and has no other characters than digits. -/
  isNumeral : Base62.isNumeral text = true
  deriving DecidableEq

/-- Why a key leads to no entry. -/
inductive KeyError
  /-- No entry has this key. -/
  | notFound (key : String)
  /-- The key is not a code at all, for the reason given. -/
  | invalid (detail : String)
  deriving DecidableEq, Repr

/-- The wording of a failure. -/
def KeyError.message : KeyError → String
  | .notFound key => "short code not found: " ++ key
  | .invalid detail => "invalid short code: " ++ detail

/-- Why a text is no code. -/
inductive ParseError
  | empty
  /-- The text holds something else than digits. -/
  | foreign (text : String)
  deriving DecidableEq, Repr

/-- The wording of a parsing failure. -/
def ParseError.message : ParseError → String
  | .empty => "short code cannot be empty"
  | .foreign text => "must contain only base62 characters: '" ++ text ++ "'"

namespace ShortCode

/-- The code of a number: its shortest numeral. -/
def ofNumber (number : UInt64) : ShortCode :=
  ⟨Base62.encode number, Base62.isNumeral_encode number⟩

/-- The code that a text spells. -/
def parse (text : String) : Except ParseError ShortCode :=
  if h : Base62.isNumeral text = true then .ok ⟨text, h⟩
  else if text.isEmpty then .error .empty
  else .error (.foreign text)

/-- The number that a code denotes, unless it is too large. -/
def number (code : ShortCode) : Except Base62.DecodeError UInt64 :=
  Base62.decode code.text

/-- A code is shown as its text. -/
instance : ToString ShortCode :=
  ⟨text⟩

/-- A code can stand where a text is wanted. -/
instance : CoeOut ShortCode String :=
  ⟨text⟩

/-- A code as it is shown for inspection. -/
def inspect (code : ShortCode) : String :=
  "ShortCode(" ++ Text.quote code.text ++ ")"

end ShortCode

/-- A failure to decode, as a failure of the key. -/
def Base62.DecodeError.toKeyError (error : Base62.DecodeError) : KeyError :=
  .invalid error.message

/-- A failure to parse, as a failure of the key. -/
def ParseError.toKeyError (error : ParseError) : KeyError :=
  .invalid error.message

end Shortlink
