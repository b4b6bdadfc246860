import Shortlink.Proofs.Log.Receipts
import Shortlink.Proofs.Store.Refinement

/-!
# The trail of receipts

The receipts that a new store hands out, one after the other, tell its whole history: the new
codes are counted from one on, no URL is given two of them, what is told of them is the
contents of the store, and every other receipt repeats an earlier one.
-/

namespace Shortlink

open Log (Receipt)

/-! ## What receipts tell -/

namespace Log.Receipt

/-- The count that comes with a new code. -/
def count? : Receipt → Option Nat
  | .allocated _ _ count => some count
  | .reused .. => none

/-- The URL that is given a new code. -/
def newUrl? : Receipt → Option String
  | .allocated _ url _ => some url
  | .reused .. => none

/-- Whether an old code was found. -/
def isReused : Receipt → Bool
  | .allocated .. => false
  | .reused .. => true

end Log.Receipt

/-- Whether a call has shortened a URL. -/
def Call.Answer.isCode : Call.Answer → Bool
  | .code _ => true
  | .url _ | .truth _ | .count _ | .exhausted _ => false

namespace MemoryStore

/-- Receipts are a complete audit of a store after `completed` calls have shortened a URL. -/
structure IsAudit (receipts : List Receipt) (store : MemoryStore) (completed : Nat) : Prop where
  /-- New codes are counted from one up to the number of codes. -/
  counts : receipts.filterMap Receipt.count? = List.range' 1 store.allocated.toNat
  /-- A new code is the numeral of its count. -/
  codes : ∀ code url count, .allocated code url count ∈ receipts →
    code = Base62.encode (UInt64.ofNat count)
  /-- No URL is given two new codes. -/
  distinct : (receipts.filterMap Receipt.newUrl?).Nodup
  /-- The URLs under the keys are those that were given the keys as new codes. -/
  urls_eq_some_iff : ∀ key url, store.urls[key]? = some url ↔
    ∃ count, .allocated key url count ∈ receipts
  /-- All other calls that have shortened a URL have found an old code. -/
  balanced : receipts.countP Receipt.isReused + store.allocated.toNat = completed
  /-- An old code had been told before as the new code of the same URL. -/
  repeats : ∀ before code url, before ++ [.reused code url] <+: receipts →
    ∃ count, .allocated code url count ∈ before

end MemoryStore

open Ledger (codeAt)

/-- Receipts are those of calls that have led to a ledger, `completed` of which have shortened
a URL. -/
inductive Trail : List Receipt → Ledger → Nat → Prop
  /-- Nothing has been shortened. -/
  | start : Trail [] [] 0
  /-- A new URL is given the next code. -/
  | allocated {receipts : List Receipt} {ledger : Ledger} {completed : Nat} {url : String} :
      Trail receipts ledger completed → url ∉ ledger →
        Trail (receipts ++ [.allocated (codeAt ledger.length).text url (ledger.length + 1)])
          (ledger ++ [url]) (completed + 1)
  /-- A known URL is found. -/
  | reused {receipts : List Receipt} {ledger : Ledger} {completed : Nat} {url key : String} :
      Trail receipts ledger completed → ledger.Assigns url key →
        Trail (receipts ++ [.reused key url]) ledger (completed + 1)

namespace Trail

variable {receipts : List Receipt} {ledger : Ledger} {completed : Nat}

theorem counts (trail : Trail receipts ledger completed) :
    receipts.filterMap Receipt.count? = List.range' 1 ledger.length := by
  induction trail with
  | start => rfl
  | allocated _ _ ih =>
      rw [List.filterMap_append, ih, List.length_append, List.length_singleton,
        List.range'_concat, Nat.one_mul, Nat.add_comm 1]
      rfl
  | reused _ _ ih => rw [List.filterMap_append, ih]; exact List.append_nil _

/-- The URLs of new codes are those of the ledger, in the same order. -/
theorem newUrls (trail : Trail receipts ledger completed) :
    receipts.filterMap Receipt.newUrl? = ledger := by
  induction trail with
  | start => rfl
  | allocated _ _ ih => rw [List.filterMap_append, ih]; rfl
  | reused _ _ ih => rw [List.filterMap_append, ih]; exact List.append_nil _

/-- A new code is told of each URL of the ledger, with the place of the URL. -/
theorem mem_allocated_iff (trail : Trail receipts ledger completed) {code url : String}
    {count : Nat} :
    .allocated code url count ∈ receipts ↔
      ∃ index, ledger[index]? = some url ∧ (codeAt index).text = code ∧ index + 1 = count := by
  induction trail with
  | start => simp
  | allocated _ _ ih =>
      rw [List.mem_append, ih, List.mem_singleton, Receipt.allocated.injEq]
      simp only [Ledger.getElem?_concat_eq_some_iff]
      constructor
      · rintro (⟨index, found, spelled, counted⟩ | ⟨rfl, rfl, rfl⟩)
        · exact ⟨index, .inl found, spelled, counted⟩
        · exact ⟨_, .inr ⟨rfl, rfl⟩, rfl, rfl⟩
      · rintro ⟨index, found | ⟨rfl, rfl⟩, rfl, rfl⟩
        · exact .inl ⟨index, found, rfl, rfl⟩
        · exact .inr ⟨rfl, rfl, rfl⟩
  | reused _ _ ih =>
      rw [List.mem_append, ih, List.mem_singleton, or_iff_left (by nofun)]

theorem exists_allocated_of_assigns (trail : Trail receipts ledger completed) {url key : String}
    (assigned : ledger.Assigns url key) : ∃ count, .allocated key url count ∈ receipts := by
  obtain ⟨index, found, spelled⟩ := assigned
  exact ⟨index + 1, trail.mem_allocated_iff.mpr ⟨index, found, spelled, rfl⟩⟩

theorem balanced (trail : Trail receipts ledger completed) :
    receipts.countP Receipt.isReused + ledger.length = completed := by
  induction trail with
  | start => rfl
  | allocated _ _ ih =>
      rw [List.countP_append, List.length_append, List.length_singleton, ← Nat.add_assoc, ← ih]
      rfl
  | reused _ _ ih =>
      rw [List.countP_append, Nat.add_right_comm, ih]
      rfl

/-- An old code had been told before as the new code of the same URL. -/
theorem repeats (trail : Trail receipts ledger completed) {before : List Receipt}
    {code url : String} (found : before ++ [.reused code url] <+: receipts) :
    ∃ count, .allocated code url count ∈ before := by
  induction trail with
  | start => exact absurd (List.prefix_nil.mp found) (List.append_ne_nil_of_right_ne_nil _ nofun)
  | allocated _ _ ih =>
      rcases List.prefix_concat_iff.mp found with whole | earlier
      · exact nomatch List.singleton_inj.mp (List.append_inj_right' whole rfl)
      · exact ih earlier
  | reused known assigned ih =>
      rcases List.prefix_concat_iff.mp found with whole | earlier
      · -- What has its place in the ledger was new once, and has been told then.
        obtain ⟨rfl, last⟩ := List.append_inj' whole rfl
        obtain ⟨rfl, rfl⟩ := Receipt.reused.inj (List.singleton_inj.mp last)
        exact known.exists_allocated_of_assigns assigned
      · exact ih earlier

end Trail

/-! ## Receipts of a store -/

namespace MemoryStore

/-- Receipts are those of the calls that a store has been through since it was new, `completed` of
which have shortened a URL. -/
def IsToldBy (store : MemoryStore) (receipts : List Receipt) (completed : Nat) : Prop :=
  ∃ ledger, store.Records ledger ∧ Trail receipts ledger completed

theorem isToldBy_empty : empty.IsToldBy [] 0 :=
  ⟨[], records_empty, .start⟩

namespace IsToldBy

variable {store : MemoryStore} {receipts : List Receipt} {completed : Nat}

/-- There is nothing to tell of a store that is left alone. -/
theorem silent (told : store.IsToldBy receipts completed) :
    store.IsToldBy (receipts ++ []) completed := by
  rwa [List.append_nil]

theorem shorten (told : store.IsToldBy receipts completed) (url : String) :
    (store.shorten url).store.IsToldBy
      (receipts ++ Receipt.ofEvents (store.shorten url).events)
      (completed + (store.shorten url).answer.isOk.toNat) := by
  obtain ⟨ledger, records, trail⟩ := told
  by_cases known : url ∈ ledger
  · rw [records.shorten_of_mem known]
    exact ⟨ledger, records, trail.reused (Ledger.assigns_idxOf known)⟩
  · by_cases room : ledger.length + 1 < UInt64.size
    · have count : (UInt64.ofNat (ledger.length + 1)).toNat = ledger.length + 1 :=
        UInt64.toNat_ofNat_of_lt' room
      rw [records.shorten_of_not_mem known room]
      refine ⟨ledger ++ [url], records.issue known room, ?_⟩
      change Trail (receipts ++ [.allocated _ url (UInt64.ofNat (ledger.length + 1)).toNat]) _ _
      rw [count]
      exact trail.allocated known
    · rw [records.shorten_of_full known room]
      exact silent ⟨ledger, records, trail⟩

/-- Calls that do not shorten anything hand out no receipts. -/
theorem run (told : store.IsToldBy receipts completed) (call : Call) :
    (call.run store).store.IsToldBy (receipts ++ Receipt.ofEvents (call.run store).events)
      (completed + (call.run store).answer.isCode.toNat) := by
  cases call with
  | shorten url =>
      have answer : (Call.run store (.shorten url)).answer.isCode =
          (store.shorten url).answer.isOk := by
        cases answered : (store.shorten url).answer with
        | ok code =>
            have outcome : (KeyStore.shorten store url).answer = .ok code := answered
            simp only [Call.run, outcome]
            rfl
        | error failure =>
            have outcome : (KeyStore.shorten store url).answer = .error failure := answered
            simp only [Call.run, outcome]
            rfl
      rw [answer]
      exact told.shorten url
  | resolve key => exact told.silent
  | contains key => exact told.silent
  | allocated => exact told.silent

theorem runAll (told : store.IsToldBy receipts completed) (calls : List Call) :
    (Call.runAll store calls).store.IsToldBy
      (receipts ++ Receipt.ofEvents (Call.runAll store calls).events)
      (completed + (Call.runAll store calls).answer.countP Call.Answer.isCode) := by
  induction calls generalizing store receipts completed with
  | nil => exact told.silent
  | cons call rest ih =>
      rw [Call.runAll, List.countP_cons, ← Bool.cond_eq_ite, Nat.add_comm (List.countP _ _),
        ← Nat.add_assoc, Receipt.ofEvents_append, ← List.append_assoc]
      exact ih (told.run call)

/-- The receipts of a store tell all that there is to know of it. -/
theorem isAudit (told : store.IsToldBy receipts completed) :
    IsAudit receipts store completed := by
  obtain ⟨ledger, records, trail⟩ := told
  have reached : store.allocated.toNat = ledger.length := records.counted
  refine ⟨?_, ?_, ?_, ?_, ?_, fun before code url => trail.repeats⟩
  · rw [reached, trail.counts]
  · intro code url count member
    obtain ⟨index, -, rfl, rfl⟩ := trail.mem_allocated_iff.mp member
    rfl
  · rw [trail.newUrls]
    exact records.distinct
  · intro key url
    rw [records.urls_eq_some_iff]
    constructor
    · exact trail.exists_allocated_of_assigns
    · rintro ⟨count, member⟩
      obtain ⟨index, found, spelled, -⟩ := trail.mem_allocated_iff.mp member
      exact ⟨index, found, spelled⟩
  · rw [reached, trail.balanced]

end IsToldBy

end MemoryStore

end Shortlink
