import Shortlink.Proofs.Concurrent.Progress
import Shortlink.Proofs.Store.Growth

/-!
# What threads can rely on

Calls of any number of threads answer as if they had been made one after the other.
Nobody who has the lock finds the maps of the store at odds, and what one thread has
learnt of the store holds for every thread from then on.
-/

namespace Shortlink.Concurrent

open Call (Answer)
open scoped List

variable {ι : Type}

/-- A call has begun and has returned. -/
def Operation.Returned (history : List (Mark ι)) (operation : Operation ι) : Prop :=
  operation.start ∈ history ∧ operation.finish ∈ history

variable [DecidableEq ι]

/-- An order accounts for what has been seen of the calls that threads make on a store. -/
structure Linearizes (store : MemoryStore) (programs : ι → List Call) (history : List (Mark ι))
    (order : List (Operation ι)) : Prop where
  /-- The answers are those of the calls made one after the other. -/
  answered : order.map Operation.answer = (replay store order).answer
  /-- Nothing is in the order that has not begun. -/
  begun : ∀ operation ∈ order, operation.start ∈ history
  /-- Every call that has returned is in the order, with its answer. -/
  complete : ∀ operation : Operation ι, operation.Returned history → operation ∈ order
  /-- The calls of a thread are in the order of its program. -/
  programOrder : ∀ thread, callsOf order thread <+: (programs thread).zipIdx
  /-- A call that has returned before another one begins comes before it. -/
  realTime : ∀ first ∈ order, ∀ second ∈ order, first.Precedes history second →
    [first, second] <+ order

theorem Explains.linearizes {store : MemoryStore} {programs : ι → List Call}
    {machine : Machine ι} {order : List (Operation ι)}
    (explains : Explains store programs machine order) :
    Linearizes store programs machine.history order where
  answered := explains.answered
  begun := explains.chronicle.begun
  complete operation returned := by
    obtain ⟨began, ended⟩ := returned
    obtain ⟨call, member⟩ := explains.chronicle.complete _ _ _ ended
    have listed := explains.chronicle.faithful _ _ _ began
    have same := explains.chronicle.faithful _ _ _ (explains.chronicle.begun _ member)
    rw [listed, Option.some.injEq] at same
    obtain ⟨thread, index, call, answer⟩ := operation
    cases same
    exact member
  programOrder thread := by
    rw [explains.chronicle.served]
    exact ⟨_, by rw [← List.zipIdx_append, List.take_append_drop]⟩
  realTime := explains.chronicle.realTime

omit [DecidableEq ι] in
theorem replay_grows {store : MemoryStore} {ledger : Ledger} (records : store.Records ledger)
    (order : List (Operation ι)) :
    ∃ longer, ledger <+: longer ∧ (replay store order).store.Records longer :=
  records.runAll_grows (order.map Operation.call)

namespace Linearizes

variable {store : MemoryStore} {programs : ι → List Call} {history : List (Mark ι)}
  {order : List (Operation ι)}

/-- A call answers what it answers after the calls before it. -/
theorem answer_eq (linearizes : Linearizes store programs history order)
    {before after : List (Operation ι)} {operation : Operation ι}
    (place : order = before ++ operation :: after) :
    operation.answer = (operation.call.run (replay store before).store).answer := by
  have answered := linearizes.answered
  rw [place, replay, List.map_append, List.map_append, Call.runAll_append] at answered
  have others := List.append_inj_right answered (by
    rw [List.length_map, Call.length_answer_runAll, List.length_map])
  exact (List.cons.inj others).1

/-- A URL that has a code in the end has got it from every call to shorten it. -/
theorem answer_of_assigns {ledger final : Ledger}
    (linearizes : Linearizes store programs history order) (records : store.Records ledger)
    (finalRecords : (replay store order).store.Records final) {url : String} {code : ShortCode}
    (assigned : final.Assigns url code.text) {shortened : Operation ι}
    (returned : shortened.Returned history) (shortens : shortened.call = .shorten url) :
    shortened.answer = .code code := by
  obtain ⟨before, after, place⟩ := List.append_of_mem (linearizes.complete _ returned)
  obtain ⟨earlier, -, earlierRecords⟩ := replay_grows records before
  -- Whatever the call has left in the ledger is there at the end.
  have reached (left : Ledger)
      (leftRecords : ((replay store before).store.shorten url).store.Records left) :
      left <+: final := by
    obtain ⟨last, later, lastRecords⟩ := replay_grows leftRecords after
    have same : (replay store order).store =
        (replay ((replay store before).store.shorten url).store after).store := by
      rw [place, store_replay_append, replay, List.map_cons, shortens]
      rfl
    rw [← same] at lastRecords
    rwa [finalRecords.unique lastRecords]
  have answered := earlierRecords.answer_shorten finalRecords.bounded finalRecords.distinct
    reached assigned
  have outcome : (KeyStore.shorten (replay store before).store url).answer = .ok code := answered
  rw [linearizes.answer_eq place, shortens, Call.run]
  simp only [outcome]

/-- Once a thread has been told how many codes there are, every thread that goes on to
resolve one of them gets its URL, and everybody who shortens this URL, at any time, gets
the code. -/
theorem resolved {ledger : Ledger} (linearizes : Linearizes store programs history order)
    (records : store.Records ledger) {asked looked : Operation ι} {count number : UInt64}
    (askedReturned : asked.Returned history) (told : asked.answer = .count count)
    (lookedReturned : looked.Returned history) (later : asked.Precedes history looked)
    (resolves : looked.call = .resolve (Base62.encode number))
    (positive : 1 ≤ number) (atMost : number ≤ count) :
    ∃ url, looked.answer = .url (.ok url) ∧
      ∀ shortened : Operation ι, shortened.Returned history → shortened.call = .shorten url →
        shortened.answer = .code (ShortCode.ofNumber number) := by
  have sorted := linearizes.realTime _ (linearizes.complete _ askedReturned) _
    (linearizes.complete _ lookedReturned) later
  obtain ⟨early, late, whole, askedEarly, lookedLate⟩ := List.cons_sublist_iff.mp sorted
  obtain ⟨first, second, rfl⟩ := List.append_of_mem askedEarly
  obtain ⟨third, fourth, rfl⟩ := List.append_of_mem (List.singleton_sublist.mp lookedLate)
  have askedPlace : order = first ++ asked :: (second ++ third ++ looked :: fourth) := by
    rw [whole, List.append_assoc, List.cons_append, List.append_assoc]
  have lookedPlace : order = (first ++ asked :: (second ++ third)) ++ looked :: fourth := by
    rw [askedPlace, List.append_assoc first, List.cons_append]
  -- The ledgers before the count, before the look-up and at the end.
  obtain ⟨counted, -, countedRecords⟩ := replay_grows records first
  obtain ⟨known, grown, knownRecords⟩ := replay_grows countedRecords (asked :: (second ++ third))
  rw [← store_replay_append] at knownRecords
  obtain ⟨final, further, finalRecords⟩ := replay_grows knownRecords (looked :: fourth)
  rw [← store_replay_append, ← lookedPlace] at finalRecords
  have enough : count.toNat = counted.length :=
    countedRecords.toNat_of_answer_count ((linearizes.answer_eq askedPlace).symm.trans told)
  obtain ⟨url, assigned⟩ := Ledger.exists_assigns_encode positive
    (enough ▸ UInt64.le_iff_toNat_le.mp atMost)
  have assignedKnown := assigned.mono grown
  refine ⟨url, ?_, ?_⟩
  · rw [linearizes.answer_eq lookedPlace, resolves]
    have found := knownRecords.resolve (Base62.encode number)
    rw [Ledger.resolve_of_assigns knownRecords.bounded assignedKnown] at found
    exact congrArg Answer.url found
  · intro shortened returned shortens
    have assignedFinal : Ledger.Assigns final url (ShortCode.ofNumber number).text :=
      assignedKnown.mono further
    exact linearizes.answer_of_assigns records finalRecords assignedFinal returned shortens

end Linearizes

/-- However threads that share a new store take turns: while nobody has the lock, the maps
of the store are inverse to each other and complete; the calls answer as if made one
after the other; and a code that has been counted leads to its URL from then on. -/
theorem run_empty_linearizable (programs : ι → List Call) (schedule : List ι) :
    let machine := Machine.run .empty programs schedule
    (machine.turn = none → machine.store.Balanced) ∧
      (∃ order, Linearizes .empty programs machine.history order) ∧
      ∀ (asked looked : Operation ι) (count number : UInt64),
        asked.Returned machine.history → asked.answer = .count count →
        looked.Returned machine.history → asked.Precedes machine.history looked →
        looked.call = .resolve (Base62.encode number) → 1 ≤ number → number ≤ count →
        ∃ url, looked.answer = .url (.ok url) ∧
          ∀ shortened : Operation ι, shortened.Returned machine.history →
            shortened.call = .shorten url →
            shortened.answer = .code (ShortCode.ofNumber number) := by
  intro machine
  obtain ⟨order, explains⟩ := Explains.run .empty programs schedule
  have linearizes := explains.linearizes
  refine ⟨?_, ⟨order, linearizes⟩, ?_⟩
  · intro free
    obtain ⟨ledger, -, records⟩ := replay_grows MemoryStore.records_empty order
    rw [(explains.free free).1]
    exact records.balanced
  · intro asked looked count number askedReturned told lookedReturned later resolves positive
      atMost
    exact linearizes.resolved MemoryStore.records_empty askedReturned told lookedReturned later
      resolves positive atMost

/-- One thread shortens a URL, and another one counts the codes and resolves the first. -/
theorem run_empty_linearizable_two_threads :
    ∃ (schedule : List Bool) (asked looked : Operation Bool),
      let programs thread :=
        if thread then [.allocated, .resolve (Base62.encode 1)] else [.shorten "a"]
      let machine := Machine.run .empty programs schedule
      machine.turn = none ∧ machine.store.Balanced ∧
        asked.Returned machine.history ∧ asked.answer = .count 1 ∧
        looked.Returned machine.history ∧ asked.Precedes machine.history looked ∧
        looked.call = .resolve (Base62.encode 1) ∧ ∃ url, looked.answer = .url (.ok url) := by
  let programs (thread : Bool) : List Call :=
    if thread then [.allocated, .resolve (Base62.encode 1)] else [.shorten "a"]
  have start : Explains .empty programs (Machine.run .empty programs []) [] :=
    Explains.empty .empty programs
  obtain ⟨first, issued, -, firstExplains, firstFree, firstThreads, firstHistory⟩ :=
    start.exists_run_completed false 0 rfl rfl rfl rfl
  obtain ⟨second, told, toldEq, secondExplains, secondFree, secondThreads, secondHistory⟩ :=
    firstExplains.exists_run_completed true 0 firstFree (by rw [firstThreads]; rfl)
      (by rw [firstThreads]; rfl) rfl
  obtain ⟨third, found, -, -, thirdFree, -, thirdHistory⟩ :=
    secondExplains.exists_run_completed true 1 secondFree (by rw [secondThreads]; rfl)
      (by rw [secondThreads]; rfl) rfl
  rw [secondHistory, firstHistory] at thirdHistory
  obtain ⟨balanced, -, resolved⟩ := run_empty_linearizable programs third
  have toldOne : told = .count 1 := by
    have records := (MemoryStore.records_empty.run (.shorten "a") (by decide)).2
    exact toldEq.trans (congrArg Answer.count records.allocated)
  refine ⟨third, ⟨true, 0, .allocated, told⟩, ⟨true, 1, .resolve (Base62.encode 1), found⟩, ?_⟩
  have asked : Operation.Returned (Machine.run .empty programs third).history
      ⟨true, 0, .allocated, told⟩ := by
    rw [thirdHistory]
    constructor <;> simp [Operation.start, Operation.finish]
  have looked : Operation.Returned (Machine.run .empty programs third).history
      ⟨true, 1, .resolve (Base62.encode 1), found⟩ := by
    rw [thirdHistory]
    constructor <;> simp [Operation.start, Operation.finish]
  have earlier : Operation.Precedes (Machine.run .empty programs third).history
      ⟨true, 0, .allocated, told⟩ ⟨true, 1, .resolve (Base62.encode 1), found⟩ := by
    rw [Operation.Precedes, thirdHistory]
    exact .cons _ (.cons _ (.cons _ (.cons_cons _ (.cons_cons _ (.cons _ .slnil)))))
  obtain ⟨url, answered, -⟩ :=
    resolved _ _ 1 1 asked toldOne looked earlier rfl (by decide) (by decide)
  exact ⟨thirdFree, balanced thirdFree, asked, toldOne, looked, earlier, rfl, url, answered⟩

end Shortlink.Concurrent
