import Shortlink.Proofs.Store.Growth

/-!
# Keys that lead somewhere

A key can be looked up as it is spelled, or it can be read as the number of a code.  The
two agree on keys without leading zeros: such a key leads to a URL exactly if its number
has been issued.  A key with leading zeros leads nowhere, whatever its number.
-/

namespace Shortlink

/-- The numeral of a number other than zero is what denotes the number and does not start with
a zero. -/
theorem Base62.encode_eq_iff_of_pos {text : String} {number : UInt64} (positive : 1 ≤ number) :
    encode number = text ↔ decode text = .ok number ∧ text.toList.head? ≠ some '0' := by
  constructor
  · rintro rfl
    refine ⟨decode_encode number, fun starts => ?_⟩
    rw [eq_zero_of_head?_encode starts] at positive
    contradiction
  · rintro ⟨read, starts⟩
    exact (encode_eq_iff_of_decode read).mpr (.inr starts)

/-- A text can be parsed as the code of a number exactly if it denotes the number. -/
theorem ShortCode.exists_parse_iff {text : String} {number : UInt64} :
    (∃ code, parse text = .ok code ∧ code.number = .ok number) ↔
      Base62.decode text = .ok number := by
  constructor
  · rintro ⟨code, parsed, read⟩
    exact parse_eq_ok_iff.mp parsed ▸ read
  · intro read
    exact ⟨⟨text, Base62.isNumeral_of_decode read⟩, parse_eq_ok_iff.mpr rfl, read⟩

namespace MemoryStore

variable {store : MemoryStore} {key : String}

theorem exists_resolve_iff : (∃ url, store.resolve key = .ok url) ↔ key ∈ store.urls := by
  rw [Std.HashMap.mem_iff_isSome_getElem?, resolve]
  cases store.urls[key]? with
  | none => simp
  | some url => simp

/-- A key that leads nowhere is reported as it is. -/
theorem resolve_of_not_mem (absent : key ∉ store.urls) :
    store.resolve key = .error (.notFound key) := by
  rw [resolve, Std.HashMap.getElem?_eq_none absent]

theorem eq_notFound_of_resolve {error : KeyError} (missing : store.resolve key = .error error) :
    error = .notFound key := by
  unfold resolve at missing
  split at missing
  · contradiction
  · exact (Except.error.inj missing).symm

/-- The keys of a store are the texts that denote a number that has been issued and do not
start with a zero. -/
theorem Balanced.mem_urls_iff_decode (balanced : store.Balanced) :
    key ∈ store.urls ↔ ∃ number, Base62.decode key = .ok number ∧ 1 ≤ number ∧
      number ≤ store.allocated ∧ key.toList.head? ≠ some '0' := by
  rw [balanced.mem_urls_iff]
  constructor
  · rintro ⟨number, positive, reached, spelled⟩
    obtain ⟨read, starts⟩ := (Base62.encode_eq_iff_of_pos positive).mp spelled
    exact ⟨number, read, positive, reached, starts⟩
  · rintro ⟨number, read, positive, reached, starts⟩
    exact ⟨number, positive, reached, (Base62.encode_eq_iff_of_pos positive).mpr ⟨read, starts⟩⟩

theorem IsReachable.balanced (reachable : store.IsReachable) : store.Balanced := by
  obtain ⟨ledger, records⟩ := reachable.exists_records
  exact records.balanced

/-- A key is that of a URL exactly if it can be parsed, its number has been issued, and it does
not start with a zero.  So of all texts of a number that has been issued exactly one leads
to a URL; keys with a leading zero, those that denote no number below 2^64, and those with
a character that is no digit lead nowhere; and nowhere is always told as the key itself. -/
theorem contains_iff_number_issued (reachable : store.IsReachable) :
    (∀ key, store.contains key = true ↔ ∃ url, store.resolve key = .ok url) ∧
    (∀ key, (∃ url, store.resolve key = .ok url) ↔
      ∃ code number, ShortCode.parse key = .ok code ∧ code.number = .ok number ∧
        1 ≤ number ∧ number ≤ store.allocated ∧ key.toList.head? ≠ some '0') ∧
    (∀ number, 1 ≤ number → number ≤ store.allocated →
      ∃! key, Base62.decode key = .ok number ∧ ∃ url, store.resolve key = .ok url) ∧
    (∀ key, (key.toList.head? = some '0' ∨ (∃ error, Base62.decode key = .error error) ∨
        ∃ character ∈ key.toList, character ∉ Base62.alphabet) →
      store.contains key = false ∧ store.resolve key = .error (.notFound key)) ∧
    ∀ key error, store.resolve key = .error error → error = .notFound key := by
  have balanced := reachable.balanced
  have contained (key : String) : store.contains key = true ↔ key ∈ store.urls :=
    Std.HashMap.contains_iff_mem
  refine ⟨fun key => (contained key).trans exists_resolve_iff.symm, fun key => ?_,
    fun number positive reached => ?_, fun key astray => ?_,
    fun key error => eq_notFound_of_resolve⟩
  · rw [exists_resolve_iff, balanced.mem_urls_iff_decode]
    constructor
    · rintro ⟨number, read, issued⟩
      obtain ⟨code, parsed, denoted⟩ := ShortCode.exists_parse_iff.mpr read
      exact ⟨code, number, parsed, denoted, issued⟩
    · rintro ⟨code, number, parsed, denoted, issued⟩
      exact ⟨number, ShortCode.exists_parse_iff.mp ⟨code, parsed, denoted⟩, issued⟩
  · refine ⟨Base62.encode number, ⟨Base62.decode_encode number, ?_⟩, ?_⟩
    · exact exists_resolve_iff.mpr ((balanced.mem_urls_iff _).mpr ⟨number, positive, reached, rfl⟩)
    · rintro key ⟨read, found⟩
      obtain ⟨_, -, -, -, starts⟩ :=
        balanced.mem_urls_iff_decode.mp (exists_resolve_iff.mp found)
      exact ((Base62.encode_eq_iff_of_pos positive).mpr ⟨read, starts⟩).symm
  · have absent : key ∉ store.urls := by
      intro present
      obtain ⟨number, read, -, -, starts⟩ := balanced.mem_urls_iff_decode.mp present
      rcases astray with zero | ⟨error, refused⟩ | ⟨character, member, foreign⟩
      · exact starts zero
      · rw [read] at refused
        contradiction
      · exact foreign (Base62.mem_alphabet_of_decode read member)
    exact ⟨Bool.eq_false_iff.mpr (mt (contained key).mp absent), resolve_of_not_mem absent⟩

/-- One URL has been shortened: its code leads to it, and leads nowhere behind a zero. -/
theorem contains_iff_number_issued_one :
    let store := (Call.runAll empty [.shorten "a"]).store
    store.IsReachable ∧ store.contains "1" = true ∧
      (∃ number, Base62.decode "01" = .ok number ∧ number ≤ store.allocated) ∧
      store.resolve "01" = .error (.notFound "01") := by
  intro store
  have reachable : store.IsReachable := ⟨_, rfl⟩
  have counted : store.allocated = 1 := by
    rw [(records_empty.runAll [.shorten "a"] (by decide)).2.allocated]
    rfl
  have atMost : 1 ≤ store.allocated := by
    rw [counted]
    decide
  obtain ⟨code, parsed, denoted⟩ : ∃ code, ShortCode.parse "1" = .ok code ∧ code.number = .ok 1 :=
    ShortCode.exists_parse_iff.mpr rfl
  obtain ⟨same, issued, -, astray, -⟩ := contains_iff_number_issued reachable
  refine ⟨reachable, (same "1").mpr ((issued "1").mpr ?_), ⟨1, rfl, atMost⟩, ?_⟩
  · exact ⟨code, 1, parsed, denoted, by decide, atMost, by simp⟩
  · exact (astray "01" (.inl (by simp))).2

end MemoryStore

end Shortlink
