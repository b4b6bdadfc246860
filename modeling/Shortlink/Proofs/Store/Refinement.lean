import Mathlib.Data.Finset.Card
import Shortlink.Proofs.ShortCode
import Shortlink.Proofs.Store.Ledger
import Shortlink.Store.Memory

/-!
# The store in memory keeps a ledger

The sequence and the two maps of a store together record one ledger: the
sequence has reached its length, and the maps are its two directions.  Every
call keeps this, whether it finds a URL, issues a new code or is refused at the
end of the sequence, and answers what the ledger says.
-/

namespace Shortlink

namespace Sequence

theorem nextCode_of_lt {sequence : Sequence} (room : sequence.last.toNat + 1 < UInt64.size) :
    sequence.nextCode = .ok (ShortCode.ofNumber (UInt64.ofNat (sequence.last.toNat + 1)),
      ⟨UInt64.ofNat (sequence.last.toNat + 1)⟩) := by
  rw [nextCode, advance, dif_pos room, UInt64.ofNatLT_eq_ofNat]
  rfl

theorem nextCode_of_not_lt {sequence : Sequence}
    (full : ¬sequence.last.toNat + 1 < UInt64.size) : sequence.nextCode = .error {} := by
  rw [nextCode, advance, dif_neg full]
  rfl

end Sequence

/-- The URL that a call shortens. -/
def Call.shortened? : Call → Option String
  | .shorten url => some url
  | .resolve _ | .contains _ | .allocated => none

namespace MemoryStore

open Ledger (codeAt)

/-- The contents of a store are those of a ledger. -/
structure Records (store : MemoryStore) (ledger : Ledger) : Prop where
  /-- No URL is listed twice. -/
  distinct : ledger.Nodup
  /-- The sequence has reached the length of the ledger. -/
  counted : store.sequence.last.toNat = ledger.length
  /-- The URLs under the keys are those of the ledger. -/
  urls_eq_some_iff : ∀ key url, store.urls[key]? = some url ↔ ledger.Assigns url key
  /-- The codes of the URLs are those of the ledger. -/
  codes_eq_some_iff : ∀ url code, store.codes[url]? = some code ↔ ledger.Assigns url code.text
  /-- There are as many keys as URLs in the ledger. -/
  urls_size : store.urls.size = ledger.length
  /-- There are as many URLs with a code as URLs in the ledger. -/
  codes_size : store.codes.size = ledger.length

theorem records_empty : Records empty [] where
  distinct := List.nodup_nil
  counted := rfl
  urls_eq_some_iff key url := by
    simp [empty, Ledger.not_assigns_nil]
  codes_eq_some_iff url code := by
    simp [empty, Ledger.not_assigns_nil]
  urls_size := Std.HashMap.size_empty
  codes_size := Std.HashMap.size_empty

/-- The store after a new URL has been filed under a new code. -/
def issue (store : MemoryStore) (url : String) (code : ShortCode) (sequence : Sequence) :
    MemoryStore :=
  ((store.withSequence sequence).putUrl code url).putCode url code

namespace Records

variable {store : MemoryStore} {ledger : Ledger}

theorem bounded (records : store.Records ledger) : ledger.length < UInt64.size := by
  rw [← records.counted]
  exact store.sequence.last.toNat_lt_size

theorem codes_eq_none_iff (records : store.Records ledger) {url : String} :
    store.codes[url]? = none ↔ url ∉ ledger := by
  constructor
  · intro absent known
    obtain ⟨code, assigned⟩ := Ledger.exists_assigns_of_mem known
    rw [(records.codes_eq_some_iff url code).mpr assigned] at absent
    contradiction
  · intro fresh
    cases found : store.codes[url]? with
    | none => rfl
    | some code => exact absurd ((records.codes_eq_some_iff url code).mp found).mem fresh

/-- The URLs under the keys are found in the ledger. -/
theorem urls_eq_find? (records : store.Records ledger) (key : String) :
    store.urls[key]? = ledger.find? key := by
  apply Option.ext
  intro url
  rw [records.urls_eq_some_iff, Ledger.find?_eq_some_iff records.bounded]

/-- Filing a new URL under the next code adds the URL to the ledger. -/
theorem issue (records : store.Records ledger) {url : String} (fresh : url ∉ ledger)
    (room : ledger.length + 1 < UInt64.size) :
    (store.issue url (codeAt ledger.length) ⟨UInt64.ofNat (ledger.length + 1)⟩).Records
      (ledger ++ [url]) where
  distinct := by
    rw [← Ledger.note_of_not_mem fresh]
    exact Ledger.nodup_note records.distinct url
  counted := by
    rw [List.length_append, List.length_singleton]
    exact UInt64.toNat_ofNat_of_lt' room
  urls_eq_some_iff key other := by
    change (store.urls.insert (codeAt ledger.length).text url)[key]? = some other ↔ _
    rw [Std.HashMap.getElem?_insert, Ledger.assigns_concat_iff]
    by_cases new : (codeAt ledger.length).text = key
    · subst new
      simp [Ledger.not_assigns_codeAt_length room, eq_comm]
    · have old : key ≠ (codeAt ledger.length).text := Ne.symm new
      simp [new, old, records.urls_eq_some_iff]
  codes_eq_some_iff other code := by
    change (store.codes.insert url (codeAt ledger.length))[other]? = some code ↔ _
    rw [Std.HashMap.getElem?_insert, Ledger.assigns_concat_iff]
    by_cases new : url = other
    · subst new
      have unassigned : ¬ledger.Assigns url code.text := fun assigned => fresh assigned.mem
      simp [unassigned, ShortCode.eq_iff_text, eq_comm]
    · have old : other ≠ url := Ne.symm new
      simp [new, old, records.codes_eq_some_iff]
  urls_size := by
    change (store.urls.insert (codeAt ledger.length).text url).size = _
    have absent : (codeAt ledger.length).text ∉ store.urls := by
      intro present
      have found := Std.HashMap.getElem?_eq_some_getElem present
      exact Ledger.not_assigns_codeAt_length room ((records.urls_eq_some_iff _ _).mp found)
    rw [Std.HashMap.size_insert, if_neg absent, records.urls_size, List.length_append,
      List.length_singleton]
  codes_size := by
    change (store.codes.insert url (codeAt ledger.length)).size = _
    have absent : url ∉ store.codes := by
      intro present
      have found := Std.HashMap.getElem?_eq_some_getElem present
      exact fresh ((records.codes_eq_some_iff _ _).mp found).mem
    rw [Std.HashMap.size_insert, if_neg absent, records.codes_size, List.length_append,
      List.length_singleton]

/-! ## Calls on a store with a ledger -/

theorem shorten_of_mem (records : store.Records ledger) {url : String} (known : url ∈ ledger) :
    store.shorten url =
      { answer := .ok (codeAt (ledger.idxOf url))
        store
        events := [.reused (codeAt (ledger.idxOf url)) url] } := by
  have found := (records.codes_eq_some_iff url _).mpr (Ledger.assigns_idxOf known)
  rw [shorten, found]

theorem nextCode (records : store.Records ledger) (room : ledger.length + 1 < UInt64.size) :
    store.sequence.nextCode =
      .ok (codeAt ledger.length, ⟨UInt64.ofNat (ledger.length + 1)⟩) := by
  rw [← records.counted] at room
  rw [Sequence.nextCode_of_lt room, records.counted]
  rfl

theorem shorten_of_not_mem (records : store.Records ledger) {url : String} (fresh : url ∉ ledger)
    (room : ledger.length + 1 < UInt64.size) :
    store.shorten url =
      { answer := .ok (codeAt ledger.length)
        store := store.issue url (codeAt ledger.length) ⟨UInt64.ofNat (ledger.length + 1)⟩
        events := [.allocated (codeAt ledger.length) url (UInt64.ofNat (ledger.length + 1))] } := by
  rw [shorten, records.codes_eq_none_iff.mpr fresh, records.nextCode room]
  rfl

/-- At the end of the sequence a new URL is refused. -/
theorem shorten_of_full (records : store.Records ledger) {url : String} (fresh : url ∉ ledger)
    (full : ¬ledger.length + 1 < UInt64.size) :
    store.shorten url = { answer := .error {}, store, events := [] } := by
  rw [← records.counted] at full
  rw [shorten, records.codes_eq_none_iff.mpr fresh, Sequence.nextCode_of_not_lt full]

/-- Shortening leaves a longer ledger at most, which assigns the code that it answers. -/
theorem shorten (records : store.Records ledger) (url : String) :
    ∃ longer : Ledger, ledger <+: longer ∧ (store.shorten url).store.Records longer ∧
      ∀ code, (store.shorten url).answer = .ok code → longer.Assigns url code.text := by
  by_cases known : url ∈ ledger
  · refine ⟨ledger, List.prefix_refl ledger, ?_⟩
    rw [records.shorten_of_mem known]
    refine ⟨records, ?_⟩
    rintro code ⟨⟩
    exact Ledger.assigns_idxOf known
  · by_cases room : ledger.length + 1 < UInt64.size
    · refine ⟨ledger ++ [url], List.prefix_append ledger [url], ?_⟩
      rw [records.shorten_of_not_mem known room]
      refine ⟨records.issue known room, ?_⟩
      rintro code ⟨⟩
      exact Ledger.assigns_concat_iff.mpr (.inr ⟨rfl, rfl⟩)
    · refine ⟨ledger, List.prefix_refl ledger, ?_⟩
      rw [records.shorten_of_full known room]
      refine ⟨records, ?_⟩
      rintro code ⟨⟩

theorem resolve (records : store.Records ledger) (key : String) :
    store.resolve key = ledger.resolve key := by
  unfold MemoryStore.resolve Ledger.resolve
  cases found : ledger.find? key with
  | none => simp only [records.urls_eq_find?, found]
  | some url => simp only [records.urls_eq_find?, found]

theorem contains (records : store.Records ledger) (key : String) :
    store.contains key = (ledger.find? key).isSome := by
  rw [MemoryStore.contains, ← records.urls_eq_find?, Std.HashMap.isSome_getElem?_eq_contains]

theorem allocated (records : store.Records ledger) :
    store.allocated = UInt64.ofNat ledger.length := by
  rw [MemoryStore.allocated, Sequence.current, ← records.counted, UInt64.ofNat_toNat]

/-- A call answers what the ledger answers, and leaves the ledger after it. -/
theorem run (records : store.Records ledger) (call : Call)
    (room : (ledger.after call).length < UInt64.size) :
    (call.run store).answer = ledger.answer call ∧
      (call.run store).store.Records (ledger.after call) := by
  cases call with
  | shorten url =>
      by_cases known : url ∈ ledger
      · have outcome : KeyStore.shorten store url = _ := records.shorten_of_mem known
        rw [Call.run, outcome, Ledger.answer, Ledger.after, Ledger.note_of_mem known]
        exact ⟨rfl, records⟩
      · rw [Ledger.after, Ledger.note_of_not_mem known, List.length_append,
          List.length_singleton] at room
        have outcome : KeyStore.shorten store url = _ := records.shorten_of_not_mem known room
        rw [Call.run, outcome, Ledger.answer, Ledger.after, Ledger.note_of_not_mem known,
          List.idxOf_append_of_notMem known, List.idxOf_cons_self]
        exact ⟨rfl, records.issue known room⟩
  | resolve key => exact ⟨congrArg Call.Answer.url (records.resolve key), records⟩
  | contains key => exact ⟨congrArg Call.Answer.truth (records.contains key), records⟩
  | allocated => exact ⟨congrArg Call.Answer.count records.allocated, records⟩

/-- Calls made one after the other answer what the ledger answers. -/
theorem runAll (records : store.Records ledger) (calls : List Call)
    (room : (ledger.afterAll calls).length < UInt64.size) :
    (Call.runAll store calls).answer = ledger.answers calls ∧
      (Call.runAll store calls).store.Records (ledger.afterAll calls) := by
  induction calls generalizing store ledger with
  | nil => exact ⟨rfl, records⟩
  | cons call rest ih =>
      have grown := (Ledger.prefix_afterAll (ledger.after call) rest).length_le
      have first := records.run call (Nat.lt_of_le_of_lt grown room)
      have others := ih first.2 room
      refine ⟨?_, others.2⟩
      rw [Call.runAll, Ledger.answers, first.1, others.1]

end Records

/-- A store that starts out empty answers every call as the ledger does, as long
as there are fewer URLs than numbers. -/
theorem answer_runAll_empty (calls : List Call)
    (few : (calls.filterMap Call.shortened?).toFinset.card < 2 ^ 64) :
    (Call.runAll empty calls).answer = Ledger.answers [] calls := by
  have noted : (Ledger.afterAll [] calls).toFinset ⊆
      (calls.filterMap Call.shortened?).toFinset := by
    intro url member
    rcases Ledger.mem_afterAll (List.mem_toFinset.mp member) with old | called
    · contradiction
    · exact List.mem_toFinset.mpr (List.mem_filterMap.mpr ⟨_, called, rfl⟩)
  have distinct := Ledger.nodup_afterAll List.nodup_nil calls
  have room : (Ledger.afterAll [] calls).length < UInt64.size :=
    calc (Ledger.afterAll [] calls).length
      _ = (Ledger.afterAll [] calls).toFinset.card := (List.toFinset_card_of_nodup distinct).symm
      _ ≤ (calls.filterMap Call.shortened?).toFinset.card := Finset.card_le_card noted
      _ < UInt64.size := few
  exact (records_empty.runAll calls room).1

theorem answer_runAll_empty_two_urls :
    let calls : List Call := [.shorten "a", .shorten "b", .shorten "a", .resolve "1",
      .resolve "c", .contains "2", .allocated]
    (calls.filterMap Call.shortened?).toFinset.card < 2 ^ 64 ∧
      (Call.runAll empty calls).answer = Ledger.answers [] calls := by
  intro calls
  have few : (calls.filterMap Call.shortened?).toFinset.card < 2 ^ 64 := by decide
  exact ⟨few, answer_runAll_empty calls few⟩

end MemoryStore

end Shortlink
