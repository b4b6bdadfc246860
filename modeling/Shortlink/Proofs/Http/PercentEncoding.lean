import Shortlink.Http.PercentEncoding
import Shortlink.Proofs.Json.Spelling
import Shortlink.Proofs.Text.Utf8

/-!
# What percent-encoded bytes spell

Which bytes spell which, said without decoding them.  An escape spells one byte;
every byte that does not start an escape spells itself.  Who writes a segment of a path
with care has to escape the marks that would end it and the percent sign, and may escape
any byte besides.
-/

namespace Shortlink.Http

open Json (IsHexDigit)

/-- Bytes start with an escape: a percent sign and two hexadecimal digits. -/
def StartsEscape (bytes : List UInt8) : Prop :=
  ∃ high low rest a b, IsHexDigit high a ∧ IsHexDigit low b ∧ bytes = 0x25 :: high :: low :: rest

/-- Bytes spell others. -/
inductive PercentSpells : List UInt8 → List UInt8 → Prop
  | nil : PercentSpells [] []
  /-- An escape spells the byte of which it has the digits. -/
  | escape {high low : UInt8} {a b : Nat} {bytes spelled : List UInt8} :
      IsHexDigit high a → IsHexDigit low b → PercentSpells bytes spelled →
        PercentSpells (0x25 :: high :: low :: bytes) (UInt8.ofNat (16 * a + b) :: spelled)
  /-- A byte that does not start an escape spells itself. -/
  | plain {byte : UInt8} {bytes spelled : List UInt8} :
      ¬StartsEscape (byte :: bytes) → PercentSpells bytes spelled →
        PercentSpells (byte :: bytes) (byte :: spelled)

/-- The marks that do not stand for themselves in a segment of a path: the slash, the
question mark, the number sign and the percent sign. -/
def segmentMarks : List UInt8 :=
  Utf8.ofString "/?#%"

/-- Bytes are a careful spelling of others in a segment of a path: the marks are all
escaped, and any other byte may be. -/
inductive IsSpelling : List UInt8 → List UInt8 → Prop
  | nil : IsSpelling [] []
  /-- An escape. -/
  | escape {high low : UInt8} {a b : Nat} {bytes spelled : List UInt8} :
      IsHexDigit high a → IsHexDigit low b → IsSpelling bytes spelled →
        IsSpelling (0x25 :: high :: low :: bytes) (UInt8.ofNat (16 * a + b) :: spelled)
  /-- A byte that is no mark. -/
  | plain {byte : UInt8} {bytes spelled : List UInt8} :
      byte ∉ segmentMarks → IsSpelling bytes spelled →
        IsSpelling (byte :: bytes) (byte :: spelled)

/-! ## Escapes -/

theorem hexValue?_eq_map (byte : UInt8) :
    hexValue? byte = (Json.hexDigit? byte).map UInt8.ofNat := by
  let IsSame (byte : UInt8) : Prop := hexValue? byte = (Json.hexDigit? byte).map UInt8.ofNat
  have each : ∀ number < 256, IsSame (UInt8.ofNat number) := by decide +kernel
  exact @Utf8.forall_byte IsSame each byte

theorem hexValue?_eq_some_iff {byte value : UInt8} :
    hexValue? byte = some value ↔
      ∃ number, IsHexDigit byte number ∧ UInt8.ofNat number = value := by
  simp only [hexValue?_eq_map, Option.map_eq_some_iff, Json.hexDigit?_eq_some_iff]

theorem ofNat_two_digits (a b : Nat) :
    16 * UInt8.ofNat a + UInt8.ofNat b = UInt8.ofNat (16 * a + b) := by
  rw [UInt8.ofNat_add, UInt8.ofNat_mul]
  rfl

theorem escaped?_of_ne {sign high low : UInt8} (other : sign ≠ 0x25) :
    escaped? sign high low = none := by
  rw [escaped?, if_neg (by rwa [beq_iff_eq])]

theorem escaped?_eq_some_iff {sign high low byte : UInt8} :
    escaped? sign high low = some byte ↔
      sign = 0x25 ∧ ∃ a b, IsHexDigit high a ∧ IsHexDigit low b ∧
        UInt8.ofNat (16 * a + b) = byte := by
  by_cases percent : sign = 0x25
  · rw [escaped?, if_pos (by rwa [beq_iff_eq])]
    constructor
    · intro read
      split at read
      · rename_i first second high low
        obtain ⟨a, digit, rfl⟩ := hexValue?_eq_some_iff.mp high
        obtain ⟨b, digit', rfl⟩ := hexValue?_eq_some_iff.mp low
        rw [ofNat_two_digits] at read
        exact ⟨percent, a, b, digit, digit', Option.some.inj read⟩
      · contradiction
    · rintro ⟨-, a, b, digit, digit', rfl⟩
      simp only [hexValue?_eq_some_iff.mpr ⟨a, digit, rfl⟩,
        hexValue?_eq_some_iff.mpr ⟨b, digit', rfl⟩, ofNat_two_digits]
  · rw [escaped?_of_ne percent]
    constructor
    · intro read
      contradiction
    · exact fun escape => absurd escape.1 percent

theorem percentDecodeOnto_escape (done : List UInt8) {high low : UInt8} {a b : Nat}
    (first : IsHexDigit high a) (second : IsHexDigit low b) (rest : List UInt8) :
    percentDecodeOnto done (0x25 :: high :: low :: rest) =
      percentDecodeOnto (UInt8.ofNat (16 * a + b) :: done) rest := by
  have read : escaped? 0x25 high low = some (UInt8.ofNat (16 * a + b)) :=
    escaped?_eq_some_iff.mpr ⟨rfl, a, b, first, second, rfl⟩
  rw [percentDecodeOnto, read]

theorem percentDecodeOnto_plain (done : List UInt8) {byte : UInt8} {rest : List UInt8}
    (plain : ¬StartsEscape (byte :: rest)) :
    percentDecodeOnto done (byte :: rest) = percentDecodeOnto (byte :: done) rest := by
  rcases rest with _ | ⟨high, _ | ⟨low, rest⟩⟩
  · simp [percentDecodeOnto]
  · simp [percentDecodeOnto]
  · cases read : escaped? byte high low with
    | none => rw [percentDecodeOnto, read]
    | some value =>
        obtain ⟨rfl, a, b, first, second, -⟩ := escaped?_eq_some_iff.mp read
        exact (plain ⟨high, low, rest, a, b, first, second, rfl⟩).elim

/-! ## Decoding -/

theorem PercentSpells.decodeOnto {bytes spelled : List UInt8} (spells : PercentSpells bytes spelled)
    (done : List UInt8) : percentDecodeOnto done bytes = done.reverse ++ spelled := by
  induction spells generalizing done with
  | nil => rfl
  | escape first second _ ih =>
      rw [percentDecodeOnto_escape done first second, ih, List.reverse_cons, List.append_assoc,
        List.singleton_append]
  | plain plain _ ih =>
      rw [percentDecodeOnto_plain done plain, ih, List.reverse_cons, List.append_assoc,
        List.singleton_append]

/-- All bytes spell some. -/
theorem exists_percentSpells (bytes : List UInt8) : ∃ spelled, PercentSpells bytes spelled := by
  -- An escape is three bytes long, so the induction is on the length.
  induction size : bytes.length using Nat.strongRecOn generalizing bytes with
  | _ size ih =>
      subst size
      by_cases escape : StartsEscape bytes
      · obtain ⟨high, low, rest, a, b, first, second, rfl⟩ := escape
        obtain ⟨spelled, spells⟩ := ih rest.length (by simp only [List.length_cons]; omega) rest rfl
        exact ⟨_, .escape first second spells⟩
      · cases bytes with
        | nil => exact ⟨[], .nil⟩
        | cons byte rest =>
            obtain ⟨spelled, spells⟩ := ih rest.length (Nat.lt_succ_self _) rest rfl
            exact ⟨_, .plain escape spells⟩

/-- Decoding finds what is spelled. -/
theorem percentDecode_eq_iff {bytes spelled : List UInt8} :
    percentDecode bytes = spelled ↔ PercentSpells bytes spelled := by
  constructor
  · rintro rfl
    obtain ⟨spelled, spells⟩ := exists_percentSpells bytes
    rwa [percentDecode, spells.decodeOnto]
  · exact fun spells => spells.decodeOnto []

/-- A segment is a key if it spells the bytes of one. -/
theorem percentDecodeText?_eq_some_iff {segment key : String} :
    percentDecodeText? segment = some key ↔
      PercentSpells (Utf8.ofString segment) (Utf8.ofString key) := by
  rw [percentDecodeText?, Utf8.toString?_eq_some_iff, percentDecode_eq_iff]

theorem percentDecodeText?_eq_none_iff {segment : String} :
    percentDecodeText? segment = none ↔
      ¬∃ key, PercentSpells (Utf8.ofString segment) (Utf8.ofString key) := by
  simp only [← percentDecodeText?_eq_some_iff, Option.eq_none_iff_forall_ne_some, not_exists, ne_eq]

/-! ## Careful spellings -/

theorem not_startsEscape {byte : UInt8} (other : byte ≠ 0x25) (rest : List UInt8) :
    ¬StartsEscape (byte :: rest) := by
  rintro ⟨high, low, rest, a, b, -, -, same⟩
  exact other (List.cons.inj same).1

/-- A careful spelling spells what it should. -/
theorem IsSpelling.percentSpells {bytes spelled : List UInt8}
    (spelling : IsSpelling bytes spelled) : PercentSpells bytes spelled := by
  induction spelling with
  | nil => exact .nil
  | escape first second _ ih => exact .escape first second ih
  | plain noMark _ ih =>
      refine .plain (not_startsEscape ?_ _) ih
      rintro rfl
      exact noMark (by decide)

/-- A hexadecimal digit is no mark. -/
theorem not_mem_segmentMarks {byte : UInt8} {value : Nat} (digit : IsHexDigit byte value) :
    byte ∉ segmentMarks := by
  have each : segmentMarks.all (Json.hexDigit? · = none) = true := by decide
  intro mark
  have none := of_decide_eq_true (List.all_eq_true.mp each byte mark)
  rw [← Json.hexDigit?_eq_some_iff, none] at digit
  contradiction

/-- No mark but the percent sign is left in a careful spelling. -/
theorem IsSpelling.eq_of_mem {bytes spelled : List UInt8} (spelling : IsSpelling bytes spelled)
    {byte : UInt8} (mark : byte ∈ segmentMarks) (member : byte ∈ bytes) : byte = 0x25 := by
  induction spelling with
  | nil => exact absurd member List.not_mem_nil
  | escape first second _ ih =>
      simp only [List.mem_cons] at member
      rcases member with rfl | rfl | rfl | inside
      · rfl
      · exact absurd mark (not_mem_segmentMarks first)
      · exact absurd mark (not_mem_segmentMarks second)
      · exact ih inside
  | plain noMark _ ih =>
      rcases List.mem_cons.mp member with rfl | inside
      · exact absurd mark noMark
      · exact ih inside

theorem IsSpelling.ne_nil {bytes spelled : List UInt8} (spelling : IsSpelling bytes spelled)
    (some : spelled ≠ []) : bytes ≠ [] := by
  cases spelling with
  | nil => exact (some rfl).elim
  | escape => exact List.cons_ne_nil _ _
  | plain => exact List.cons_ne_nil _ _

end Shortlink.Http
