import Mathlib.Data.Fintype.Basic
import Shortlink.Proofs.Concurrent.Completion
import Shortlink.Proofs.Store.Renaming

/-!
# Threads that shorten in any order

Threads shorten the URLs of their own lists on a store that is in use.  However they take
turns, the same URLs are known in the end, the same numbers have been issued, and old codes
are where they were.  Only which new URL has which of the new codes depends on the turns.
-/

namespace Shortlink.Concurrent

open Call (Answer)

variable {ι : Type}

/-- Each thread shortens the URLs of a list of its own. -/
def shortenings (urls : ι → List String) (thread : ι) : List Call :=
  (urls thread).map .shorten

theorem shorten_mem_shortenings_iff {urls : ι → List String} {thread : ι} {url : String} :
    .shorten url ∈ shortenings urls thread ↔ url ∈ urls thread := by
  simp [shortenings]

/-- The URLs of the lists that a store does not know. -/
def newUrls [Fintype ι] (store : MemoryStore) (urls : ι → List String) : Finset String :=
  (Finset.univ.biUnion fun thread => (urls thread).toFinset).filter (· ∉ store.codes)

theorem mem_newUrls_iff [Fintype ι] {store : MemoryStore} {urls : ι → List String}
    {url : String} :
    url ∈ newUrls store urls ↔ url ∉ store.codes ∧ ∃ thread, url ∈ urls thread := by
  simp [newUrls, and_comm]

/-- Threads have shortened the URLs of their lists. -/
structure HasShortened [Fintype ι] (store : MemoryStore) (urls : ι → List String)
    (machine : Machine ι) : Prop where
  /-- The URLs known before and those of the lists are known. -/
  known : ∀ url, url ∈ machine.store.codes ↔ url ∈ store.codes ∨ ∃ thread, url ∈ urls thread
  /-- One number has been issued for each new URL. -/
  allocated : machine.store.allocated.toNat =
    store.allocated.toNat + (newUrls store urls).card
  /-- Every call has answered the code that its URL has in the end. -/
  told : ∀ (thread : ι) (index : Nat) (url : String), (urls thread)[index]? = some url →
    ∃ code, machine.store.codes[url]? = some code ∧
      ∀ answer, .ended thread index answer ∈ machine.history ↔ answer = .code code
  /-- Old URLs have their old codes. -/
  kept : ∀ (url : String) (code : ShortCode), store.codes[url]? = some code →
    machine.store.codes[url]? = some code
  /-- New URLs have the codes of the numbers issued, one each. -/
  issued : Set.BijOn (fun url : String => machine.store.codes[url]?)
    {url | url ∈ newUrls store urls}
    ((fun number => some (ShortCode.ofNumber number)) ''
      {number | store.allocated < number ∧ number ≤ machine.store.allocated})

variable [Fintype ι] [DecidableEq ι] {store : MemoryStore} {urls : ι → List String}
  {machine : Machine ι} {order : List (Operation ι)} {ledger fresh : Ledger}

namespace Explains

/-- When all threads are done, the new URLs are behind the old ones. -/
theorem exists_fresh (explains : Explains store (shortenings urls) machine order)
    (complete : machine.IsComplete (shortenings urls)) (records : store.Records ledger)
    (room : store.allocated.toNat + (newUrls store urls).card < UInt64.size) :
    ∃ fresh : Ledger, fresh.toFinset = newUrls store urls ∧ fresh.Nodup ∧
      machine.store.Records (ledger ++ fresh) := by
  obtain ⟨fresh, whole, distinct, members⟩ :=
    Ledger.exists_afterAll_eq_append records.distinct (order.map Operation.call)
  have same : fresh.toFinset = newUrls store urls := by
    ext url
    rw [List.mem_toFinset, members, mem_newUrls_iff, records.mem_codes_iff,
      explains.mem_calls_iff complete]
    simp only [shorten_mem_shortenings_iff]
  have fits : (ledger.afterAll (order.map Operation.call)).length < UInt64.size := by
    have reached : store.allocated.toNat = ledger.length := records.counted
    rwa [whole, List.length_append, ← reached, ← List.toFinset_card_of_nodup distinct, same]
  have finalRecords := (records.runAll _ fits).2
  rw [whole] at finalRecords
  exact ⟨fresh, same, distinct, explains.store_of_isComplete complete ▸ finalRecords⟩

theorem hasShortened (explains : Explains store (shortenings urls) machine order)
    (complete : machine.IsComplete (shortenings urls)) (hasReturned : machine.HasReturned)
    (records : store.Records ledger) (same : fresh.toFinset = newUrls store urls)
    (distinct : fresh.Nodup) (finalRecords : machine.store.Records (ledger ++ fresh)) :
    HasShortened store urls machine := by
  have members {url : String} : url ∈ fresh ↔ url ∉ ledger ∧ ∃ thread, url ∈ urls thread := by
    rw [← List.mem_toFinset, same, mem_newUrls_iff, records.mem_codes_iff]
  have known (url : String) :
      url ∈ machine.store.codes ↔ url ∈ store.codes ∨ ∃ thread, url ∈ urls thread := by
    rw [finalRecords.mem_codes_iff, records.mem_codes_iff, List.mem_append, members]
    grind
  refine ⟨known, ?_, ?_, fun url code => records.codes_eq_some_of_grown finalRecords, ?_⟩
  · have start : store.allocated.toNat = ledger.length := records.counted
    have stop : machine.store.allocated.toNat = (ledger ++ fresh).length := finalRecords.counted
    rw [stop, List.length_append, start, ← same, List.toFinset_card_of_nodup distinct]
  · intro thread index url listed
    have present := (known url).mpr (.inr ⟨thread, List.mem_of_getElem? listed⟩)
    obtain ⟨code, found⟩ := Option.isSome_iff_exists.mp
      (Std.HashMap.mem_iff_isSome_getElem?.mp present)
    refine ⟨code, found, ?_⟩
    have assigned := (finalRecords.codes_eq_some_iff url code).mp found
    have called : (shortenings urls thread)[index]? = some (.shorten url) := by
      rw [shortenings, List.getElem?_map, listed, Option.map_some]
    obtain ⟨answer, returned⟩ := explains.exists_returned complete hasReturned called
    have answered {answer : Answer}
        (returned : Operation.Returned machine.history ⟨thread, index, .shorten url, answer⟩) :
        answer = .code code :=
      explains.linearizes.answer_of_assigns records
        (explains.store_of_isComplete complete ▸ finalRecords) assigned returned rfl
    intro other
    constructor
    · exact fun ended => answered ⟨returned.1, ended⟩
    · rintro rfl
      exact answered returned ▸ returned.2
  · simp only [← same, List.mem_toFinset]
    exact records.bijOn_codes finalRecords

end Explains

/-- However threads take turns to shorten the URLs of their lists, on whatever store: in the
end the old URLs and those of the lists are known, one number has been issued for each new
URL, all threads have been told the same code for a URL, and old URLs have kept theirs.  The
codes of the lists, in the order of their numbers, do not depend on the turns, and the stores
differ in a relabelling of the codes of new URLs at most. -/
theorem run_shortenings_confluent (reachable : store.IsReachable) (urls : ι → List String)
    (room : store.allocated.toNat + (newUrls store urls).card < 2 ^ 64)
    {first second : List ι}
    (firstComplete : (Machine.run store (shortenings urls) first).IsComplete (shortenings urls))
    (secondComplete :
      (Machine.run store (shortenings urls) second).IsComplete (shortenings urls)) :
    let machine := Machine.run store (shortenings urls)
    HasShortened store urls (machine first) ∧ HasShortened store urls (machine second) ∧
      (∀ listed : List String, (∀ url, url ∈ listed ↔ ∃ thread, url ∈ urls thread) →
        (machine first).store.codesByNumber listed =
          (machine second).store.codesByNumber listed) ∧
      ∃ relabel : Equiv.Perm ShortCode,
        (machine first).store.IsRelabelled (machine second).store relabel ∧
          ∀ code, (∀ url ∈ newUrls store urls, (machine first).store.codes[url]? ≠ some code) →
            relabel code = code := by
  intro machine
  obtain ⟨ledger, records⟩ := reachable.exists_records
  obtain ⟨firstOrder, firstExplains⟩ := Explains.run store (shortenings urls) first
  obtain ⟨secondOrder, secondExplains⟩ := Explains.run store (shortenings urls) second
  obtain ⟨fresh, same, distinct, firstRecords⟩ :=
    firstExplains.exists_fresh firstComplete records room
  obtain ⟨other, otherSame, otherDistinct, secondRecords⟩ :=
    secondExplains.exists_fresh secondComplete records room
  have reordered : fresh.Perm other := by
    rw [List.perm_ext_iff_of_nodup distinct otherDistinct]
    intro url
    rw [← List.mem_toFinset, same, ← otherSame, List.mem_toFinset]
  refine ⟨?_, ?_, ?_, ?_⟩
  · exact firstExplains.hasShortened firstComplete (Machine.HasReturned.run store _ first) records
      same distinct firstRecords
  · exact secondExplains.hasShortened secondComplete (Machine.HasReturned.run store _ second)
      records otherSame otherDistinct secondRecords
  · intro listed exactly
    refine firstRecords.codesByNumber_eq secondRecords reordered fun url member => ?_
    rw [exactly]
    rw [← List.mem_toFinset, same] at member
    exact (mem_newUrls_iff.mp member).2
  · obtain ⟨relabel, relabelled, others⟩ :=
      firstRecords.exists_isRelabelled secondRecords reordered
    refine ⟨relabel, relabelled, fun code old => others code fun url member => old url ?_⟩
    rw [← same]
    exact List.mem_toFinset.mpr member

/-- One thread shortens a known URL and a new one, the other one two new ones; one of the
new ones is the same.  They go one after the other, and the other way round. -/
theorem run_shortenings_confluent_two_threads :
    let store : MemoryStore := (Call.runAll .empty [.shorten "a"]).store
    let urls (thread : Bool) := if thread then ["c", "b"] else ["a", "b"]
    let machine := Machine.run store (shortenings urls)
    store.IsReachable ∧ store.allocated.toNat + (newUrls store urls).card < 2 ^ 64 ∧
      ∃ first second : List Bool, (machine first).IsComplete (shortenings urls) ∧
        (machine second).IsComplete (shortenings urls) ∧
        HasShortened store urls (machine first) ∧ HasShortened store urls (machine second) ∧
        (machine first).store.codesByNumber ["a", "b", "c"] =
          (machine second).store.codesByNumber ["a", "b", "c"] := by
  intro store urls machine
  have reachable : store.IsReachable := ⟨_, rfl⟩
  have room : store.allocated.toNat + (newUrls store urls).card < 2 ^ 64 := by
    have reached : store.allocated.toNat = 1 :=
      (MemoryStore.records_empty.runAll [.shorten "a"] (by decide)).2.counted
    have few : (newUrls store urls).card ≤ 3 := Finset.card_filter_le _ _
    omega
  have complete (turns : List Bool) (whole : ∀ thread, turns.count thread = 2) :
      ∃ schedule, (machine schedule).IsComplete (shortenings urls) := by
    have lengths (thread : Bool) : (shortenings urls thread).length = 2 := by
      cases thread <;> rfl
    obtain ⟨schedule, -, -, -, threads⟩ := exists_run_turns store (shortenings urls) turns
      fun thread => by rw [whole, lengths]
    exact ⟨schedule, fun thread => by rw [lengths, ← whole thread]; exact threads thread⟩
  obtain ⟨first, firstComplete⟩ := complete [false, false, true, true] (by decide)
  obtain ⟨second, secondComplete⟩ := complete [true, true, false, false] (by decide)
  obtain ⟨firstDone, secondDone, sameCodes, -⟩ :=
    run_shortenings_confluent reachable urls room firstComplete secondComplete
  refine ⟨reachable, room, first, second, firstComplete, secondComplete, firstDone, secondDone,
    sameCodes _ fun url => ?_⟩
  simp only [urls, Bool.exists_bool, if_true, if_false, Bool.false_eq_true, List.mem_cons,
    List.not_mem_nil, or_false]
  grind

end Shortlink.Concurrent
