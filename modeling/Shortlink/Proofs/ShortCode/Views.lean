import Shortlink.Proofs.Decimal.Numerals
import Shortlink.Proofs.Json.Spelling
import Shortlink.Proofs.Store.Growth
import Shortlink.ShortCode.Json

/-!
# Views of a code

However a code has come about, it is its text: issued for a number, parsed, or read from a
document.  Its text is a numeral, so the document of a code needs no escapes, and both the text
and the document lead back to the code.
-/

namespace Shortlink

theorem exceptMapError_eq_ok_iff {ε ε' α : Type} {f : ε → ε'} {result : Except ε α} {value : α} :
    result.mapError f = .ok value ↔ result = .ok value := by
  cases result <;> simp [Except.mapError]

namespace Json

/-- A character of the alphabet is written as it is. -/
theorem writtenCharacter_of_mem_alphabet {character : Char} (member : character ∈ Base62.alphabet) :
    writtenCharacter character = [character] := by
  have each : ∀ value < 62,
      writtenCharacter (Base62.digit value) = [Base62.digit value] := by decide
  obtain ⟨value, small, rfl⟩ := Base62.mem_alphabet_iff.mp member
  exact each value small

/-- A numeral is written between quotes with nothing escaped. -/
theorem string_of_isNumeral {text : String} (numeral : Base62.isNumeral text = true) :
    string text = "\"" ++ text ++ "\"" := by
  have plain : text.toList.flatMap writtenCharacter = text.toList := by
    rw [List.flatMap_congr fun character member =>
      writtenCharacter_of_mem_alphabet ((Base62.isNumeral_iff.mp numeral).2 character member)]
    exact List.flatMap_singleton' _
  rw [string, plain, ← String.toList_inj, String.toList_ofList]
  simp only [String.toList_append]
  rfl

end Json

namespace ShortCode

open Json (Blanks Quotes)

/-- A document is read as a code by reading a string, parsing it and requiring the end. -/
theorem ofJson_eq_ok_iff_reads {document : List UInt8} {code : ShortCode} :
    ofJson document = .ok code ↔ ∃ text rest, Json.expectText document = .ok (text, rest) ∧
      parse text = .ok code ∧ Json.expectEnd rest = .ok () := by
  unfold ofJson
  simp only [exceptBind_eq_ok_iff, exceptMapError_eq_ok_iff, Prod.exists]
  constructor
  · rintro ⟨text, rest, taken, other, parsed, ⟨⟩, ended, same⟩
    exact ⟨text, rest, taken, Except.ok.inj same ▸ parsed, ended⟩
  · rintro ⟨text, rest, taken, parsed, ended⟩
    exact ⟨text, rest, taken, code, parsed, (), ended, rfl⟩

/-- A document is read as a code exactly if it is a single string whose text parses as the code. -/
theorem ofJson_eq_ok_iff {document : List UInt8} {code : ShortCode} :
    ofJson document = .ok code ↔
      ∃ (before after : Blanks) (quoted : List UInt8) (text : String), Quotes quoted text ∧
        document = before.val ++ (quoted ++ after.val) ∧ parse text = .ok code := by
  rw [ofJson_eq_ok_iff_reads]
  constructor
  · rintro ⟨text, rest, taken, parsed, ended⟩
    obtain ⟨before, quoted, quotes, rfl⟩ := Json.expectText_eq_ok_iff.mp taken
    obtain ⟨after, rfl⟩ := Json.expectEnd_eq_ok_iff.mp ended
    exact ⟨before, after, quoted, text, quotes, rfl, parsed⟩
  · rintro ⟨before, after, quoted, text, quotes, rfl, parsed⟩
    exact ⟨text, after.val, Json.expectText_eq_ok_iff.mpr ⟨before, quoted, quotes, rfl⟩, parsed,
      Json.expectEnd_eq_ok_iff.mpr ⟨after, rfl⟩⟩

/-- The document of a code is read as the code. -/
theorem ofJson_toJson (code : ShortCode) : ofJson (Utf8.ofString code.toJson) = .ok code := by
  have taken := Json.expectText_string code.text []
  rw [List.append_nil] at taken
  exact ofJson_eq_ok_iff_reads.mpr ⟨code.text, [], taken, parse_eq_ok_iff.mpr rfl, rfl⟩

/-- The codes that a store in memory hands out are those of numbers. -/
theorem exists_eq_ofNumber_of_shorten {store : MemoryStore} (reachable : store.IsReachable)
    {url : String} {code : ShortCode} (told : (store.shorten url).answer = .ok code) :
    ∃ number, code = ofNumber number := by
  obtain ⟨ledger, records⟩ := reachable.exists_records
  obtain ⟨longer, -, -, assigned⟩ := records.shorten url
  obtain ⟨index, -, spelled⟩ := assigned code told
  exact ⟨_, eq_iff_text.mpr spelled.symm⟩

theorem eq_ofNumber_of_nextCode {sequence moved : Sequence} {code : ShortCode}
    (issued : sequence.nextCode = .ok (code, moved)) : code = ofNumber moved.current := by
  obtain ⟨reached, -, same⟩ := exceptMap_eq_ok_iff.mp issued
  obtain ⟨rfl, rfl⟩ := Prod.mk.inj same
  rfl

/-- A code is its text.  It comes about for a number, by parsing, from a sequence, from a store or
from a document, and each of these says which text that is and when there is one.  The text is
made of one digit or more, it is what is shown of the code in every view, it stands in the
document of the code with nothing escaped, and both lead back to the code.  What the text
denotes is the number of the code, which can only be too large. -/
theorem text_in_every_view :
    (∀ number, (ofNumber number).text = Base62.encode number) ∧
    (∀ text code, parse text = .ok code ↔ code.text = text) ∧
    (∀ text, (∃ code, parse text = .ok code) ↔
      text ≠ "" ∧ ∀ character ∈ text.toList, character ∈ Base62.alphabet) ∧
    (∀ (sequence moved : Sequence) code, sequence.nextCode = .ok (code, moved) →
      code = ofNumber moved.current) ∧
    (∀ (store : MemoryStore) url code, store.IsReachable →
      (store.shorten url).answer = .ok code → ∃ number, code = ofNumber number) ∧
    (∀ document code, ofJson document = .ok code ↔
      ∃ (before after : Blanks) (quoted : List UInt8) (text : String), Quotes quoted text ∧
        document = before.val ++ (quoted ++ after.val) ∧ parse text = .ok code) ∧
    ∀ code : ShortCode,
      (code.text ≠ "" ∧ ∀ character ∈ code.text.toList, character ∈ Base62.alphabet) ∧
      toString code = code.text ∧ (code : String) = code.text ∧
      code.toJson = "\"" ++ code.text ++ "\"" ∧
      parse code.text = .ok code ∧ ofJson (Utf8.ofString code.toJson) = .ok code ∧
      code.number = Base62.decode code.text ∧
      ∀ error, code.number = .error error → error = .overflow code.text := by
  refine ⟨fun _ => rfl, fun _ _ => parse_eq_ok_iff, fun _ => exists_parse_eq_ok_iff,
    fun _ _ _ => eq_ofNumber_of_nextCode,
    fun _ _ _ reachable => exists_eq_ofNumber_of_shorten reachable,
    fun _ _ => ofJson_eq_ok_iff, fun code => ?_⟩
  exact ⟨Base62.isNumeral_iff.mp code.isNumeral, rfl, rfl, Json.string_of_isNumeral code.isNumeral,
    parse_eq_ok_iff.mpr rfl, ofJson_toJson code, rfl,
    fun _ => Base62.eq_overflow_of_decode code.isNumeral⟩

/-- The first code of a sequence and of a store, and a code whose number is too large. -/
theorem text_in_every_view_of_first_and_last :
    (∃ moved, ({} : Sequence).nextCode = .ok (ofNumber 1, moved) ∧
      ofNumber 1 = ofNumber moved.current) ∧
    (∃ code, MemoryStore.empty.IsReachable ∧
      (MemoryStore.empty.shorten "a").answer = .ok code ∧ ∃ number, code = ofNumber number) ∧
    ∃ large, parse "ZZZZZZZZZZZ" = .ok large ∧ 'Z' ∈ large.text.toList ∧ 'Z' ∈ Base62.alphabet ∧
      ∃ error, large.number = .error error ∧ error = .overflow "ZZZZZZZZZZZ" := by
  obtain ⟨-, -, parses, issued, handed, -, views⟩ := text_in_every_view
  have told : (MemoryStore.empty.shorten "a").answer = .ok (Ledger.codeAt 0) := by
    rw [MemoryStore.records_empty.shorten_of_not_mem List.not_mem_nil (by decide)]
    rfl
  refine ⟨⟨⟨1⟩, rfl, issued {} ⟨1⟩ _ rfl⟩,
    ⟨_, ⟨[], rfl⟩, told, handed .empty "a" _ ⟨[], rfl⟩ told⟩, ?_⟩
  have numeral : Base62.isNumeral "ZZZZZZZZZZZ" = true := by decide +kernel
  obtain ⟨large, parsed⟩ := (parses _).mpr (Base62.isNumeral_iff.mp numeral)
  have text := parse_eq_ok_iff.mp parsed
  have last : 'Z' ∈ large.text.toList := by rw [text]; decide +kernel
  have failed : large.number = .error (.overflow "ZZZZZZZZZZZ") := by
    rw [number, text]
    decide +kernel
  exact ⟨large, parsed, last, (views large).1.2 'Z' last, _, failed,
    ((views large).2.2.2.2.2.2.2 _ failed).trans (by rw [text])⟩

end ShortCode

end Shortlink
