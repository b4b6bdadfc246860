import Shortlink.Proofs.Store.Refinement

/-!
# The end of the sequence

What shortening does to any store, whatever its sequence and its maps hold: a known URL
is found, a new one is filed under the next code, and at the end of the sequence a new
one is refused.  Only the second of these changes anything.  A store can be brought to
the end of its sequence by calls.
-/

namespace Shortlink

/-- A sequence has reached its last number. -/
def Sequence.IsAtEnd (sequence : Sequence) : Prop :=
  sequence.current.toNat = 2 ^ 64 - 1

instance (sequence : Sequence) : Decidable sequence.IsAtEnd :=
  inferInstanceAs (Decidable (_ = _))

theorem Sequence.isAtEnd_iff {sequence : Sequence} :
    sequence.IsAtEnd ↔ ¬sequence.last.toNat + 1 < UInt64.size := by
  have bounded : sequence.last.toNat < 2 ^ 64 := sequence.last.toNat_lt
  change sequence.last.toNat = 2 ^ 64 - 1 ↔ ¬sequence.last.toNat + 1 < 2 ^ 64
  omega

namespace MemoryStore

/-- A URL is new to a store that has no code left for it. -/
def IsFullFor (store : MemoryStore) (url : String) : Prop :=
  url ∉ store.codes ∧ store.sequence.IsAtEnd

instance (store : MemoryStore) (url : String) : Decidable (store.IsFullFor url) :=
  inferInstanceAs (Decidable (_ ∧ _))

section Any

variable {store : MemoryStore} {url : String}

theorem shorten_of_known {code : ShortCode} (known : store.codes[url]? = some code) :
    store.shorten url = { answer := .ok code, store, events := [.reused code url] } := by
  rw [shorten, known]

/-- The number of the next code. -/
def next (store : MemoryStore) : UInt64 :=
  UInt64.ofNat (store.sequence.last.toNat + 1)

theorem shorten_of_room (new : url ∉ store.codes) (room : ¬store.sequence.IsAtEnd) :
    store.shorten url =
      { answer := .ok (ShortCode.ofNumber store.next)
        store := store.issue url (ShortCode.ofNumber store.next) ⟨store.next⟩
        events := [.allocated (ShortCode.ofNumber store.next) url store.next] } := by
  have fits : store.sequence.last.toNat + 1 < UInt64.size :=
    Decidable.not_not.mp (mt Sequence.isAtEnd_iff.mpr room)
  rw [shorten, Std.HashMap.getElem?_eq_none new, Sequence.nextCode_of_lt fits]
  rfl

theorem shorten_of_isFullFor (full : store.IsFullFor url) :
    store.shorten url = { answer := .error {}, store, events := [] } := by
  rw [shorten, Std.HashMap.getElem?_eq_none full.1,
    Sequence.nextCode_of_not_lt (Sequence.isAtEnd_iff.mp full.2)]

/-- Shortening finds a known URL, refuses a new one at the end of the sequence, or files a
new one under the next code. -/
theorem shorten_trichotomy (store : MemoryStore) (url : String) :
    (∃ code, store.codes[url]? = some code) ∨ store.IsFullFor url ∨
      url ∉ store.codes ∧ ¬store.sequence.IsAtEnd := by
  by_cases known : url ∈ store.codes
  · exact .inl ⟨_, Std.HashMap.getElem?_eq_some_getElem known⟩
  · by_cases atEnd : store.sequence.IsAtEnd
    · exact .inr (.inl ⟨known, atEnd⟩)
    · exact .inr (.inr ⟨known, atEnd⟩)

/-- A URL is refused exactly if it is new and the sequence is at its end. -/
theorem exists_answer_error_iff :
    (∃ failure, (store.shorten url).answer = .error failure) ↔ store.IsFullFor url := by
  constructor
  · rintro ⟨failure, refused⟩
    rcases shorten_trichotomy store url with ⟨code, known⟩ | full | ⟨new, room⟩
    · rw [shorten_of_known known] at refused
      contradiction
    · exact full
    · rw [shorten_of_room new room] at refused
      contradiction
  · intro full
    exact ⟨{}, by rw [shorten_of_isFullFor full]⟩

theorem exists_answer_ok_iff :
    (∃ code, (store.shorten url).answer = .ok code) ↔ ¬store.IsFullFor url := by
  rw [← exists_answer_error_iff]
  constructor
  · rintro ⟨code, answered⟩ ⟨failure, refused⟩
    rw [answered] at refused
    contradiction
  · intro accepted
    cases answered : (store.shorten url).answer with
    | ok code => exact ⟨code, rfl⟩
    | error failure => exact absurd ⟨failure, answered⟩ accepted

/-- A refusal leaves the store as it is. -/
theorem store_shorten_of_isFullFor (full : store.IsFullFor url) :
    (store.shorten url).store = store := by
  rw [shorten_of_isFullFor full]

theorem store_shorten_of_mem (known : url ∈ store.codes) : (store.shorten url).store = store := by
  rw [shorten_of_known (Std.HashMap.getElem?_eq_some_getElem known)]

/-- At the end of the sequence nothing changes a store any more. -/
theorem store_shorten_of_isAtEnd (atEnd : store.sequence.IsAtEnd) (url : String) :
    (store.shorten url).store = store := by
  by_cases known : url ∈ store.codes
  · exact store_shorten_of_mem known
  · exact store_shorten_of_isFullFor ⟨known, atEnd⟩

theorem toNat_allocated_of_room (new : url ∉ store.codes) (room : ¬store.sequence.IsAtEnd) :
    (store.shorten url).store.allocated.toNat = store.allocated.toNat + 1 := by
  rw [shorten_of_room new room]
  exact UInt64.toNat_ofNat_of_lt' (Decidable.not_not.mp (mt Sequence.isAtEnd_iff.mpr room))

/-- The count stays or grows by one; it never wraps. -/
theorem toNat_allocated_shorten (store : MemoryStore) (url : String) :
    (store.shorten url).store.allocated.toNat = store.allocated.toNat ∨
      (store.shorten url).store.allocated.toNat = store.allocated.toNat + 1 := by
  rcases shorten_trichotomy store url with ⟨code, known⟩ | full | ⟨new, room⟩
  · exact .inl (by rw [shorten_of_known known])
  · exact .inl (by rw [shorten_of_isFullFor full])
  · exact .inr (toNat_allocated_of_room new room)

end Any

end MemoryStore

/-! ## Getting to the end -/

/-- Shortening new URLs adds them in their order. -/
theorem Ledger.afterAll_shorten {ledger : Ledger} {urls : List String}
    (distinct : (ledger ++ urls).Nodup) :
    ledger.afterAll (urls.map Call.shorten) = ledger ++ urls := by
  induction urls generalizing ledger with
  | nil => exact (List.append_nil ledger).symm
  | cons url rest ih =>
      have fresh : url ∉ ledger := fun member =>
        (List.nodup_append.mp distinct).2.2 url member url List.mem_cons_self rfl
      rw [List.append_cons] at distinct
      calc ledger.afterAll ((url :: rest).map Call.shorten)
        _ = (ledger.note url).afterAll (rest.map Call.shorten) := rfl
        _ = (ledger ++ [url]).afterAll (rest.map Call.shorten) := by rw [note_of_not_mem fresh]
        _ = ledger ++ [url] ++ rest := ih distinct
        _ = ledger ++ url :: rest := (List.append_cons ledger url rest).symm

namespace MemoryStore

/-- URLs that are all different: each one is longer than those before. -/
def manyUrls (count : Nat) : List String :=
  (List.range count).map fun length => String.ofList (List.replicate length 'b')

theorem nodup_manyUrls (count : Nat) : (manyUrls count).Nodup := by
  refine List.Nodup.map ?_ List.nodup_range
  intro length other same
  have lengths := congrArg (fun url => url.toList.length) same
  simpa using lengths

theorem not_mem_manyUrls {url : String} {character : Char} (member : character ∈ url.toList)
    (other : character ≠ 'b') (count : Nat) : url ∉ manyUrls count := by
  intro listed
  obtain ⟨length, -, rfl⟩ := List.mem_map.mp listed
  rw [String.toList_ofList] at member
  exact other (List.eq_of_mem_replicate member)

/-- URLs that are all different use up the sequence if there are as many as codes. -/
theorem isFullFor_runAll {urls : List String} (distinct : urls.Nodup)
    (many : urls.length = 2 ^ 64 - 1) {url : String} (new : url ∉ urls) :
    (Call.runAll empty (urls.map Call.shorten)).store.IsFullFor url := by
  have listed : Ledger.afterAll [] (urls.map Call.shorten) = urls := by
    rw [Ledger.afterAll_shorten (by rwa [List.nil_append]), List.nil_append]
  have few : urls.length < UInt64.size := by
    rw [many]
    decide
  have records := (records_empty.runAll (urls.map Call.shorten) (by rwa [listed])).2
  rw [listed] at records
  constructor
  · intro known
    rw [Std.HashMap.mem_iff_isSome_getElem?, records.codes_eq_none_iff.mpr new] at known
    contradiction
  · exact records.counted.trans many

/-- There is a run of calls after which no code is left for a URL. -/
theorem exists_isFullFor {url : String} {character : Char} (member : character ∈ url.toList)
    (other : character ≠ 'b') :
    ∃ calls : List Call, (Call.runAll empty calls).store.IsFullFor url := by
  obtain ⟨count, number⟩ : ∃ count, count = 2 ^ 64 - 1 := ⟨_, rfl⟩
  have many : (manyUrls count).length = 2 ^ 64 - 1 := by
    rw [manyUrls, List.length_map, List.length_range, number]
  exact ⟨_, isFullFor_runAll (nodup_manyUrls count) many (not_mem_manyUrls member other count)⟩

end MemoryStore

end Shortlink
