import Shortlink.Proofs.Store.Refinement
import Shortlink.Proofs.Store.Runs

/-!
# Stores only grow

A store has one ledger, and calls add to it at the end or leave it alone, also when
the sequence runs out.  So a code stays with its URL in every later state.
-/

namespace Shortlink.MemoryStore

open Ledger (codeAt)

/-- The two maps of a store are inverse to each other, and its keys are the numerals
from one up to the number that the sequence has reached. -/
structure Balanced (store : MemoryStore) : Prop where
  /-- A key leads to a URL if and only if the URL has this key. -/
  inverse : ∀ key url, store.urls[key]? = some url ↔
    ∃ code : ShortCode, code.text = key ∧ store.codes[url]? = some code
  /-- The keys are the numerals of the numbers that have been reached. -/
  mem_urls_iff : ∀ key, key ∈ store.urls ↔
    ∃ number : UInt64, 1 ≤ number ∧ number ≤ store.sequence.current ∧ Base62.encode number = key
  /-- There are as many keys as numbers reached. -/
  urls_size : store.urls.size = store.sequence.current.toNat
  /-- There are as many URLs with a code as numbers reached. -/
  codes_size : store.codes.size = store.sequence.current.toNat

namespace Records

variable {store : MemoryStore} {ledger : Ledger}

theorem balanced (records : store.Records ledger) : store.Balanced where
  inverse key url := by
    rw [records.urls_eq_some_iff]
    constructor
    · rintro ⟨index, found, spelled⟩
      refine ⟨codeAt index, spelled, (records.codes_eq_some_iff url _).mpr ?_⟩
      exact ⟨index, found, rfl⟩
    · rintro ⟨code, rfl, found⟩
      exact (records.codes_eq_some_iff url code).mp found
  mem_urls_iff key := by
    rw [Std.HashMap.mem_iff_isSome_getElem?, Option.isSome_iff_exists]
    constructor
    · rintro ⟨url, found⟩
      obtain ⟨index, listed, spelled⟩ := (records.urls_eq_some_iff key url).mp found
      have inRange := Ledger.lt_length_of_getElem? listed
      have fits : index + 1 < UInt64.size := Nat.lt_of_le_of_lt inRange records.bounded
      refine ⟨UInt64.ofNat (index + 1), ?_, ?_, spelled⟩
      · rw [UInt64.le_iff_toNat_le, UInt64.toNat_ofNat_of_lt' fits]
        exact Nat.le_add_left 1 index
      · rw [UInt64.le_iff_toNat_le, UInt64.toNat_ofNat_of_lt' fits]
        exact records.counted.symm ▸ inRange
    · rintro ⟨number, positive, reached, rfl⟩
      have atMost : number.toNat ≤ ledger.length :=
        records.counted ▸ UInt64.le_iff_toNat_le.mp reached
      obtain ⟨url, assigned⟩ := Ledger.exists_assigns_encode positive atMost
      exact ⟨url, (records.urls_eq_some_iff _ _).mpr assigned⟩
  urls_size := records.urls_size.trans records.counted.symm
  codes_size := records.codes_size.trans records.counted.symm

/-- A store has one ledger only. -/
theorem unique {other : Ledger} (records : store.Records ledger)
    (otherRecords : store.Records other) : ledger = other := by
  have sameLength : ledger.length = other.length :=
    records.counted.symm.trans otherRecords.counted
  have bounded := records.bounded
  apply List.ext_getElem sameLength
  intro index inRange otherInRange
  have assigned : ledger.Assigns ledger[index] (codeAt index).text :=
    ⟨index, List.getElem?_eq_getElem inRange, rfl⟩
  have otherAssigned : other.Assigns other[index] (codeAt index).text :=
    ⟨index, List.getElem?_eq_getElem otherInRange, rfl⟩
  have found := (records.urls_eq_some_iff _ _).mpr assigned
  rw [(otherRecords.urls_eq_some_iff _ _).mpr otherAssigned, Option.some.injEq] at found
  exact found.symm

/-- A URL that has a code gets it from a call to shorten it. -/
theorem answer_shorten_of_assigns (records : store.Records ledger) {url : String}
    {code : ShortCode} (assigned : ledger.Assigns url code.text) :
    (store.shorten url).answer = .ok code := by
  rw [MemoryStore.shorten, (records.codes_eq_some_iff url code).mpr assigned]

/-- No call loses anything. -/
theorem run_grows (records : store.Records ledger) (call : Call) :
    ∃ longer, ledger <+: longer ∧ (call.run store).store.Records longer := by
  cases call with
  | shorten url =>
      obtain ⟨longer, grown, kept, -⟩ := records.shorten url
      exact ⟨longer, grown, kept⟩
  | resolve key => exact ⟨ledger, List.prefix_refl ledger, records⟩
  | contains key => exact ⟨ledger, List.prefix_refl ledger, records⟩
  | allocated => exact ⟨ledger, List.prefix_refl ledger, records⟩

/-- No run of calls loses anything. -/
theorem runAll_grows (records : store.Records ledger) (calls : List Call) :
    ∃ longer, ledger <+: longer ∧ (Call.runAll store calls).store.Records longer := by
  induction calls generalizing store ledger with
  | nil => exact ⟨ledger, List.prefix_refl ledger, records⟩
  | cons call rest ih =>
      obtain ⟨middle, grown, kept⟩ := records.run_grows call
      obtain ⟨longer, furtherGrown, furtherKept⟩ := ih kept
      exact ⟨longer, grown.trans furtherGrown, furtherKept⟩

/-- The count that a call answers is the length of the ledger. -/
theorem toNat_of_answer_count (records : store.Records ledger) {call : Call} {count : UInt64}
    (told : (call.run store).answer = .count count) : count.toNat = ledger.length := by
  cases call with
  | shorten url =>
      rw [Call.run] at told
      split at told <;> contradiction
  | resolve key => contradiction
  | contains key => contradiction
  | allocated =>
      have same : store.allocated = count := Call.Answer.count.inj told
      rw [← same, ← records.counted]
      rfl

/-- A URL that gets a code in the end has got it from every call to shorten it. -/
theorem answer_shorten {final : Ledger} (records : store.Records ledger) {url : String}
    (bounded : final.length < UInt64.size) (distinct : final.Nodup)
    (reached : ∀ after, (store.shorten url).store.Records after → after <+: final)
    {code : ShortCode} (assigned : final.Assigns url code.text) :
    (store.shorten url).answer = .ok code := by
  obtain ⟨after, grown, kept, sound⟩ := records.shorten url
  cases answered : (store.shorten url).answer with
  | ok found =>
      have same := ((sound found answered).mono (reached after kept)).key_unique
        distinct assigned
      rw [ShortCode.eq_iff_text.mpr same]
  | error failure =>
      exfalso
      have fresh : url ∉ ledger := by
        intro known
        rw [records.shorten_of_mem known] at answered
        contradiction
      have full : ¬ledger.length + 1 < UInt64.size := by
        intro room
        rw [records.shorten_of_not_mem fresh room] at answered
        contradiction
      -- A ledger without room is as long as any can be.
      have whole : ledger = final :=
        (grown.trans (reached after kept)).eq_of_length_le (by omega)
      exact fresh (whole ▸ assigned.mem)

end Records

/-- Calls on a new store can lead to a store. -/
def IsReachable (store : MemoryStore) : Prop :=
  ∃ calls, (Call.runAll empty calls).store = store

theorem IsReachable.exists_records {store : MemoryStore} (reachable : store.IsReachable) :
    ∃ ledger, store.Records ledger := by
  obtain ⟨calls, rfl⟩ := reachable
  obtain ⟨ledger, -, records⟩ := records_empty.runAll_grows calls
  exact ⟨ledger, records⟩

end Shortlink.MemoryStore
