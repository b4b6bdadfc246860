import Shortlink.Proofs.Base62.Numeral
import Shortlink.ShortCode

/-!
# The texts of short codes

A code is its text, and this has no other bytes than those of digits.  Every text of one digit or
more is the text of a code.
-/

namespace Shortlink.ShortCode

/-- Codes are the same when their texts are. -/
theorem eq_iff_text {first second : ShortCode} : first = second ↔ first.text = second.text := by
  constructor
  · exact congrArg text
  · cases first
    cases second
    rintro rfl
    rfl

theorem isDigit_of_mem (code : ShortCode) {byte : UInt8}
    (member : byte ∈ Utf8.ofString code.text) : Base62.isDigit byte = true := by
  have numeral := code.isNumeral
  rw [Base62.isNumeral, Bool.and_eq_true] at numeral
  exact List.all_eq_true.mp numeral.2 byte member

/-- A byte of ASCII that is no digit stands for no character of a code. -/
theorem not_mem_toList (code : ShortCode) {character : Char} {byte : UInt8}
    (single : String.utf8EncodeChar character = [byte]) (noDigit : Base62.isDigit byte = false) :
    character ∉ code.text.toList := by
  intro member
  rw [code.isDigit_of_mem (Utf8.mem_ofString single member)] at noDigit
  contradiction

theorem text_ne_empty (code : ShortCode) : code.text ≠ "" :=
  (Base62.isNumeral_iff.mp code.isNumeral).1

theorem parse_eq_ok_iff {text : String} {code : ShortCode} :
    parse text = .ok code ↔ code.text = text := by
  constructor
  · intro parsed
    unfold parse at parsed
    split at parsed
    · rw [← Except.ok.inj parsed]
    · split at parsed <;> contradiction
  · rintro rfl
    exact dif_pos code.isNumeral

theorem exists_parse_eq_ok_iff {text : String} :
    (∃ code, parse text = .ok code) ↔
      text ≠ "" ∧ ∀ character ∈ text.toList, character ∈ Base62.alphabet := by
  rw [← Base62.isNumeral_iff]
  constructor
  · rintro ⟨code, parsed⟩
    exact parse_eq_ok_iff.mp parsed ▸ code.isNumeral
  · intro numeral
    exact ⟨⟨text, numeral⟩, parse_eq_ok_iff.mpr rfl⟩

end Shortlink.ShortCode
