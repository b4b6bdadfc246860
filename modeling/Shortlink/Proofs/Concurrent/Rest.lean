import Shortlink.Proofs.Concurrent.Completion
import Shortlink.Proofs.Store.Trail

/-!
# Threads at rest

When no thread has a call under way, the calls that have returned are those that have taken
effect: the threads have been told what these calls answer one after the other, though in
another order perhaps, and the receipts that have been handed out are theirs.
-/

namespace Shortlink.Concurrent

open Call (Answer)
open Log (Receipt)

variable {ι : Type}

/-- A call that has returned: its thread, its place among the calls of the thread and its
answer. -/
def Mark.returned? : Mark ι → Option (ι × Nat × Answer)
  | .began .. => none
  | .ended thread index answer => some (thread, index, answer)

/-- The calls that have returned, in the order of time. -/
def returns (history : List (Mark ι)) : List (ι × Nat × Answer) :=
  history.filterMap Mark.returned?

/-- What the threads have been told, in the order of time. -/
def Machine.answers (machine : Machine ι) : List Answer :=
  (returns machine.history).map fun (_, _, answer) => answer

theorem mem_returns_iff {history : List (Mark ι)} {thread : ι} {index : Nat} {answer : Answer} :
    (thread, index, answer) ∈ returns history ↔ .ended thread index answer ∈ history := by
  constructor
  · intro member
    obtain ⟨mark, inHistory, returned⟩ := List.mem_filterMap.mp member
    cases mark with
    | began => contradiction
    | ended =>
        cases returned
        exact inHistory
  · exact fun member => List.mem_filterMap.mpr ⟨_, member, rfl⟩

namespace Operation

/-- By what a call is known. -/
def place (operation : Operation ι) : ι × Nat :=
  (operation.thread, operation.index)

/-- What is seen of a call when it returns. -/
def outcome (operation : Operation ι) : ι × Nat × Answer :=
  (operation.thread, operation.index, operation.answer)

end Operation

theorem returns_concat (history : List (Mark ι)) (last : Mark ι) :
    returns (history ++ [last]) = returns history ++ last.returned?.toList := by
  rw [returns, List.filterMap_append]
  cases last <;> rfl

variable [DecidableEq ι]

/-! ## Nothing is counted twice -/

/-- No call takes effect twice. -/
theorem Chronicle.nodup_place {programs : ι → List Call} {threads : ι → Thread}
    {history : List (Mark ι)} {order : List (Operation ι)}
    (chronicle : Chronicle programs threads history order) :
    (order.map Operation.place).Nodup := by
  refine List.pairwise_map.mpr (List.pairwise_iff_forall_sublist.mpr ?_)
  intro first second both same
  obtain ⟨thread, index⟩ := Prod.mk.inj same
  have own : [first.index, second.index].Sublist
      ((callsOf order first.thread).map Prod.snd) := by
    have filtered := both.filter (·.thread = first.thread)
    rw [List.filter_cons_of_pos (by simp), List.filter_cons_of_pos (by simp [thread])] at filtered
    rw [callsOf, List.map_map]
    exact filtered.map _
  -- The places of the calls of one thread are counted up.
  rw [chronicle.served, List.zipIdx_map_snd, index] at own
  exact (List.nodup_cons.mp (own.nodup List.nodup_range')).1 List.mem_cons_self

/-- A call that returns has not returned before. -/
theorem Chronicle.nodup_returns_step {programs : ι → List Call} {machine : Machine ι}
    {order : List (Operation ι)}
    (chronicle : Chronicle programs machine.threads machine.history order)
    (distinct : (returns machine.history).Nodup) (thread : ι) :
    (returns (machine.step programs thread).history).Nodup := by
  unfold Machine.step
  split
  case h_1 =>
    split
    · exact distinct
    · rwa [Machine.history_begin, returns_concat, Mark.returned?, Option.toList_none,
        List.append_nil]
  case h_2 =>
    split
    · exact distinct
    · split
      · split
        · exact distinct
        · exact distinct
      · exact distinct
  case h_3 answer _ =>
    rw [Machine.history_finish, returns_concat, Mark.returned?, Option.toList_some,
      ← List.concat_eq_append, List.nodup_concat]
    refine ⟨?_, distinct⟩
    intro again
    have counted := chronicle.counted _ _ _ (mem_returns_iff.mp again)
    exact Nat.lt_irrefl _ counted

theorem nodup_returns (store : MemoryStore) (programs : ι → List Call) (schedule : List ι) :
    (returns (Machine.run store programs schedule).history).Nodup := by
  induction schedule using List.reverseRecOn with
  | nil => exact List.nodup_nil
  | append_singleton schedule last ih =>
      obtain ⟨order, explains⟩ := Explains.run store programs schedule
      rw [Machine.run, List.foldl_append]
      exact explains.chronicle.nodup_returns_step ih last

/-! ## At rest -/

namespace Explains

variable {store : MemoryStore} {programs : ι → List Call} {machine : Machine ι}
  {order : List (Operation ι)}

/-- At rest the calls that have returned are those that have taken effect. -/
theorem mem_returns_iff_of_isAtRest (explains : Explains store programs machine order)
    (rest : machine.IsAtRest) (hasReturned : machine.HasReturned) (call : ι × Nat × Answer) :
    call ∈ returns machine.history ↔ call ∈ order.map Operation.outcome := by
  obtain ⟨thread, index, answer⟩ := call
  rw [mem_returns_iff]
  constructor
  · intro ended
    obtain ⟨call, member⟩ := explains.chronicle.complete _ _ _ ended
    exact List.mem_map.mpr ⟨_, member, rfl⟩
  · intro effected
    obtain ⟨operation, member, same⟩ := List.mem_map.mp effected
    obtain ⟨rfl, rfl, rfl⟩ : operation.thread = thread ∧ operation.index = index ∧
        operation.answer = answer := by simpa [Operation.outcome] using same
    -- At rest what has taken effect has returned, and with no other answer than its own.
    have made := explains.chronicle.index_lt_served member
    rw [Thread.served, rest operation.thread] at made
    obtain ⟨told, ended⟩ := hasReturned _ _ made
    obtain ⟨call, again⟩ := explains.chronicle.complete _ _ _ ended
    have once := List.inj_on_of_nodup_map explains.chronicle.nodup_place again member rfl
    have answer : told = operation.answer := congrArg Operation.answer once
    rwa [answer] at ended

/-- At rest the threads have been told what the calls answer one after the other. -/
theorem answers_perm (explains : Explains store programs machine order)
    (rest : machine.IsAtRest) (hasReturned : machine.HasReturned)
    (distinct : (returns machine.history).Nodup) :
    machine.answers.Perm (replay store order).answer := by
  have same : (returns machine.history).Perm (order.map Operation.outcome) := by
    refine (List.perm_ext_iff_of_nodup distinct ?_).mpr
      (explains.mem_returns_iff_of_isAtRest rest hasReturned)
    refine List.Nodup.of_map (fun (thread, index, _) => (thread, index)) ?_
    rw [List.map_map]
    exact explains.chronicle.nodup_place
  rw [← explains.answered]
  have answers := same.map fun (_, _, answer) => answer
  rwa [List.map_map] at answers

end Explains

omit [DecidableEq ι] in
/-- Nothing that tells of a URL is reported outside of the lock. -/
theorem ofEvents_reported (events : List Log.Event) :
    Receipt.ofEvents (reported events) = Receipt.ofEvents events := by
  rw [Receipt.ofEvents, reported, List.filterMap_filter, Receipt.ofEvents]
  refine List.filterMap_congr fun event _ => ?_
  cases found : Receipt.ofEvent? event with
  | none => split <;> rfl
  | some receipt =>
      have level := (Receipt.filed_of_ofEvent? found).2
      rw [level]
      rfl

end Shortlink.Concurrent

namespace Shortlink.MemoryStore.IsToldBy

open Concurrent
open Log (Receipt)

/-- Once threads are at rest, the receipts are those of the store, whatever turns the threads have
taken. -/
theorem machine {ι : Type} [DecidableEq ι] {store : MemoryStore} {receipts : List Receipt}
    {completed : Nat} (told : store.IsToldBy receipts completed) (programs : ι → List Call)
    (schedule : List ι) (rest : (Machine.run store programs schedule).IsAtRest) :
    let machine := Machine.run store programs schedule
    machine.store.IsToldBy (receipts ++ Receipt.ofEvents machine.events)
      (completed + machine.answers.countP Call.Answer.isCode) := by
  intro machine
  obtain ⟨order, explains⟩ := Explains.run store programs schedule
  obtain ⟨contents, said⟩ := explains.free (explains.turn_of_isAtRest rest)
  have answers := explains.answers_perm rest (Machine.HasReturned.run store programs schedule)
    (nodup_returns store programs schedule)
  have handed : Receipt.ofEvents machine.events = Receipt.ofEvents (replay store order).events := by
    rw [← ofEvents_reported, said, ofEvents_reported]
  change machine.store = _ at contents
  rw [contents, handed, answers.countP_eq]
  exact told.runAll (order.map Operation.call)

end Shortlink.MemoryStore.IsToldBy
