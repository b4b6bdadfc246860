import Shortlink.Proofs.Concurrent.Guarantee

/-!
# Threads that have made all their calls

Once every thread has made all its calls, each of them has returned, the lock is free,
and the calls that have taken effect are those of the programs.  Threads can take turns
by whole calls in any order.
-/

namespace Shortlink.Concurrent

variable {ι : Type} [DecidableEq ι]

/-- All threads have made all their calls. -/
def Machine.IsComplete (programs : ι → List Call) (machine : Machine ι) : Prop :=
  ∀ thread, machine.threads thread = { made := (programs thread).length }

/-- No thread has a call under way. -/
def Machine.IsAtRest (machine : Machine ι) : Prop :=
  ∀ thread, (machine.threads thread).phase = .idle

omit [DecidableEq ι] in
theorem Machine.IsComplete.isAtRest {programs : ι → List Call} {machine : Machine ι}
    (complete : machine.IsComplete programs) : machine.IsAtRest :=
  fun thread => congrArg Thread.phase (complete thread)

/-! ## Calls that have returned -/

/-- The calls that threads have made have returned. -/
def Machine.HasReturned (machine : Machine ι) : Prop :=
  ∀ thread, ∀ index < (machine.threads thread).made,
    ∃ answer, .ended thread index answer ∈ machine.history

namespace Machine.HasReturned

variable {programs : ι → List Call} {machine : Machine ι}

omit [DecidableEq ι] in
/-- Threads that make the same number of calls have returned from them later, too. -/
theorem of_made_eq (returned : machine.HasReturned) {later : Machine ι}
    (made : ∀ thread, (later.threads thread).made = (machine.threads thread).made)
    (grown : machine.history ⊆ later.history) : later.HasReturned := by
  intro thread index before
  rw [made] at before
  obtain ⟨answer, ended⟩ := returned thread index before
  exact ⟨answer, grown ended⟩

theorem step (returned : machine.HasReturned) (thread : ι) :
    (machine.step programs thread).HasReturned := by
  unfold Machine.step
  split
  case h_1 =>
    split
    · exact returned
    · exact returned.of_made_eq (made_update _ thread · _) (List.subset_append_left _ _)
  case h_2 =>
    split
    · exact returned
    · split
      · split
        · exact returned
        · exact returned.of_made_eq (made_update _ thread · _) (List.Subset.refl _)
      · exact returned
  case h_3 answer _ =>
    intro other index before
    by_cases same : other = thread
    · subst same
      rw [threads_finish, Function.update_self] at before
      rcases Nat.lt_succ_iff_lt_or_eq.mp before with earlier | rfl
      · obtain ⟨found, ended⟩ := returned other index earlier
        exact ⟨found, List.mem_append_left _ ended⟩
      · exact ⟨answer, List.mem_append_right _ List.mem_cons_self⟩
    · rw [threads_finish, Function.update_of_ne same] at before
      obtain ⟨found, ended⟩ := returned other index before
      exact ⟨found, List.mem_append_left _ ended⟩

theorem run (store : MemoryStore) (programs : ι → List Call) (schedule : List ι) :
    (Machine.run store programs schedule).HasReturned := by
  have steps (machine : Machine ι) (returned : machine.HasReturned) :
      (schedule.foldl (Machine.step programs) machine).HasReturned := by
    induction schedule generalizing machine with
    | nil => exact returned
    | cons thread rest ih => exact ih _ (returned.step thread)
  exact steps _ fun _ _ before => absurd before (Nat.not_lt_zero _)

end Machine.HasReturned

/-! ## Complete runs -/

namespace Explains

variable {store : MemoryStore} {programs : ι → List Call} {machine : Machine ι}
  {order : List (Operation ι)}

/-- Nobody at rest has the lock. -/
theorem turn_of_isAtRest (explains : Explains store programs machine order)
    (rest : machine.IsAtRest) : machine.turn = none := by
  cases taken : machine.turn with
  | none => rfl
  | some turn =>
      obtain ⟨call, -, busy, -⟩ := explains.held turn.1 turn.2 taken
      rw [rest turn.1] at busy
      contradiction

/-- At the end the store is what the calls leave. -/
theorem store_of_isComplete (explains : Explains store programs machine order)
    (complete : machine.IsComplete programs) : machine.store = (replay store order).store :=
  (explains.free (explains.turn_of_isAtRest complete.isAtRest)).1

theorem callsOf_of_isComplete (explains : Explains store programs machine order)
    (complete : machine.IsComplete programs) (thread : ι) :
    callsOf order thread = (programs thread).zipIdx := by
  rw [explains.chronicle.served, Thread.served, complete thread]
  exact congrArg (List.zipIdx ·) (List.take_length ..)

/-- The calls that have taken effect are those of the programs. -/
theorem mem_calls_iff (explains : Explains store programs machine order)
    (complete : machine.IsComplete programs) {call : Call} :
    call ∈ order.map Operation.call ↔ ∃ thread, call ∈ programs thread := by
  constructor
  · intro member
    obtain ⟨operation, inOrder, rfl⟩ := List.mem_map.mp member
    refine ⟨operation.thread, ?_⟩
    have own : (operation.call, operation.index) ∈ callsOf order operation.thread :=
      List.mem_map.mpr ⟨operation, List.mem_filter.mpr ⟨inOrder, by simp⟩, rfl⟩
    rw [explains.callsOf_of_isComplete complete] at own
    exact List.mem_of_getElem? (List.mk_mem_zipIdx_iff_getElem?.mp own)
  · rintro ⟨thread, member⟩
    obtain ⟨index, listed⟩ := List.getElem?_of_mem member
    have own := List.mk_mem_zipIdx_iff_getElem?.mpr listed
    rw [← explains.callsOf_of_isComplete complete] at own
    obtain ⟨operation, inOrder, same⟩ := List.mem_map.mp own
    rw [← (Prod.mk.inj same).1]
    exact List.mem_map_of_mem (List.mem_filter.mp inOrder).1

/-- Every call of a program has returned. -/
theorem exists_returned (explains : Explains store programs machine order)
    (complete : machine.IsComplete programs) (hasReturned : machine.HasReturned) {thread : ι}
    {index : Nat} {call : Call} (listed : (programs thread)[index]? = some call) :
    ∃ answer, Operation.Returned machine.history ⟨thread, index, call, answer⟩ := by
  have made : index < (machine.threads thread).made := by
    rw [complete thread]
    exact (List.getElem?_eq_some_iff.mp listed).1
  obtain ⟨answer, ended⟩ := hasReturned thread index made
  obtain ⟨found, member⟩ := explains.chronicle.complete thread index answer ended
  have began := explains.chronicle.begun _ member
  have same := explains.chronicle.faithful _ _ _ began
  rw [listed, Option.some.injEq] at same
  subst same
  exact ⟨answer, began, ended⟩

end Explains

/-- Threads can take turns by whole calls, in any order in which they have calls left. -/
theorem exists_run_turns (store : MemoryStore) (programs : ι → List Call) (turns : List ι)
    (fits : ∀ thread, turns.count thread ≤ (programs thread).length) :
    ∃ schedule order, Explains store programs (Machine.run store programs schedule) order ∧
      (Machine.run store programs schedule).turn = none ∧
      ∀ thread, (Machine.run store programs schedule).threads thread =
        { made := turns.count thread } := by
  induction turns using List.reverseRecOn with
  | nil => exact ⟨[], [], Explains.empty store programs, rfl, fun _ => rfl⟩
  | append_singleton turns last ih =>
      have counted (thread : ι) :
          (turns ++ [last]).count thread = turns.count thread + [last].count thread :=
        List.count_append
      obtain ⟨schedule, order, explains, free, threads⟩ :=
        ih fun thread => Nat.le_trans (by rw [counted]; exact Nat.le_add_right _ _) (fits thread)
      have left : turns.count last < (programs last).length := by
        have all := fits last
        rw [counted, List.count_singleton_self] at all
        exact all
      obtain ⟨longer, answer, -, furtherExplains, furtherFree, furtherThreads, -⟩ :=
        explains.exists_run_completed last (turns.count last) free (by rw [threads])
          (by rw [threads]) (List.getElem?_eq_getElem left)
      refine ⟨longer, _, furtherExplains, furtherFree, fun thread => ?_⟩
      rw [furtherThreads, counted]
      by_cases same : thread = last
      · rw [same, Function.update_self, List.count_singleton_self]
      · rw [Function.update_of_ne same, threads, List.count_singleton,
          if_neg (by simpa using Ne.symm same), Nat.add_zero]

end Shortlink.Concurrent
