import Shortlink.Proofs.Concurrent.Linear

/-!
# Threads that get on

While nobody has the lock, a thread that is left to itself brings its next call to
its end: no call waits for anything but the lock, and none keeps it.
-/

namespace Shortlink.Concurrent

open Call (Answer)

/-- A bound on the steps that a call still takes before it is done with the store. -/
def Stage.rank : Stage → Nat
  | .entered _ => 5
  | .unknown _ => 4
  | .counted .. => 3
  | .filed .. => 2
  | .reporting .. => 1
  | .settled _ => 0

theorem Stage.rank_advance_lt {stage : Stage} (pending : stage.answer? = none)
    (store : MemoryStore) : (stage.advance store).answer.rank < stage.rank := by
  cases stage with
  | entered call =>
      cases call with
      | shorten url =>
          cases found : store.codes[url]? with
          | none =>
              rw [advance_unknown found]
              exact Nat.lt_succ_self _
          | some code =>
              rw [advance_known found]
              exact Nat.lt_of_sub_eq_succ rfl
      | _ => exact Nat.zero_lt_succ _
  | unknown url =>
      cases next : store.sequence.nextCode with
      | error failure =>
          rw [advance_exhausted next]
          exact Nat.zero_lt_succ _
      | ok issued =>
          rw [advance_counted next]
          exact Nat.lt_succ_self _
  | counted url code => exact Nat.lt_succ_self _
  | filed url code => exact Nat.lt_succ_self _
  | reporting event answer => exact Nat.lt_succ_self _
  | settled answer => contradiction

variable {ι : Type} [DecidableEq ι]

namespace Machine

variable {programs : ι → List Call} {machine : Machine ι} {thread : ι} {call : Call}

theorem step_begin (idle : (machine.threads thread).phase = .idle)
    (next : (programs thread)[(machine.threads thread).made]? = some call) :
    machine.step programs thread = machine.begin thread call := by
  simp only [step, idle, next]

theorem step_enter (busy : (machine.threads thread).phase = .busy call)
    (free : machine.turn = none) :
    machine.step programs thread = machine.enter thread call := by
  simp only [step, busy, free]

theorem step_work {stage : Stage} (busy : (machine.threads thread).phase = .busy call)
    (own : machine.turn = some (thread, stage)) (pending : stage.answer? = none) :
    machine.step programs thread = machine.work thread stage := by
  simp only [step, busy, own, pending, if_true]

theorem step_release {answer : Answer} (busy : (machine.threads thread).phase = .busy call)
    (own : machine.turn = some (thread, .settled answer)) :
    machine.step programs thread = machine.release thread answer := by
  simp only [step, busy, own, Stage.answer?, if_true]

theorem step_finish {answer : Answer}
    (released : (machine.threads thread).phase = .released answer) :
    machine.step programs thread = machine.finish thread answer := by
  simp only [step, released]

/-- The machine after a thread has taken some steps alone. -/
def alone (programs : ι → List Call) (thread : ι) (machine : Machine ι) : Nat → Machine ι
  | 0 => machine
  | steps + 1 => alone programs thread (machine.step programs thread) steps

theorem alone_add (machine : Machine ι) (first second : Nat) :
    machine.alone programs thread (first + second) =
      (machine.alone programs thread first).alone programs thread second := by
  induction first generalizing machine with
  | zero => rw [Nat.zero_add, alone]
  | succ first ih => rw [Nat.succ_add, alone, ih, alone]

theorem run_append_replicate (store : MemoryStore) (schedule : List ι) (steps : Nat) :
    run store programs (schedule ++ List.replicate steps thread) =
      (run store programs schedule).alone programs thread steps := by
  rw [run, List.foldl_append, ← run]
  generalize run store programs schedule = machine
  induction steps generalizing machine with
  | zero => rfl
  | succ steps ih => rw [List.replicate_succ, List.foldl_cons, ih, alone]

end Machine

namespace Explains

variable {store : MemoryStore} {programs : ι → List Call} {order : List (Operation ι)}
  {thread : ι} {call : Call}

/-- A thread that has the lock gets to the point of giving it back. -/
theorem exists_settled {machine : Machine ι} (explains : Explains store programs machine order)
    (busy : (machine.threads thread).phase = .busy call) {stage : Stage}
    (own : machine.turn = some (thread, stage)) :
    ∃ steps after answer, machine.alone programs thread steps = after ∧
      Explains store programs after order ∧ after.turn = some (thread, .settled answer) ∧
      after.threads = machine.threads ∧ after.history = machine.history := by
  cases done : stage.answer? with
  | some answer =>
      rw [Stage.eq_settled_of_answer? done] at own
      exact ⟨0, machine, answer, rfl, explains, own, rfl, rfl⟩
  | none =>
      have smaller := Stage.rank_advance_lt done machine.store
      obtain ⟨steps, after, answer, reached, others⟩ :=
        (explains.work own).exists_settled busy rfl
      refine ⟨steps + 1, after, answer, ?_, others⟩
      rw [Machine.alone, Machine.step_work busy own done, reached]
termination_by stage.rank

/-- While nobody has the lock, a thread that is left to itself completes its next call. -/
theorem exists_completed {machine : Machine ι} (explains : Explains store programs machine order)
    (thread : ι) (free : machine.turn = none) (idle : (machine.threads thread).phase = .idle)
    (next : (programs thread)[(machine.threads thread).made]? = some call) :
    ∃ steps after answer, machine.alone programs thread steps = after ∧
      answer = (call.run (replay store order).store).answer ∧
      Explains store programs after
        (order ++ [⟨thread, (machine.threads thread).made, call, answer⟩]) ∧
      after.turn = none ∧
      after.threads =
        Function.update machine.threads thread { made := (machine.threads thread).made + 1 } ∧
      after.history = machine.history ++
        [.began thread (machine.threads thread).made call,
          .ended thread (machine.threads thread).made answer] := by
  have begun := explains.begin idle next
  have busy : ((machine.begin thread call).threads thread).phase = .busy call := by simp
  obtain ⟨steps, middle, answer, reached, settled, turn, threads, history⟩ :=
    (begun.enter busy free).exists_settled busy (Machine.turn_enter ..)
  have middleBusy : (middle.threads thread).phase = .busy call := by rw [threads]; exact busy
  have made : (middle.threads thread).made = (machine.threads thread).made := by simp [threads]
  have releasedPhase :
      ((middle.release thread answer).threads thread).phase = .released answer := by simp
  obtain ⟨events, whole, -⟩ := settled.settled middleBusy turn
  refine ⟨2 + (steps + 2), (middle.release thread answer).finish thread answer, answer,
    ?_, ?_, ?_, rfl, ?_, ?_⟩
  · rw [Machine.alone_add, Machine.alone_add]
    simp only [Machine.alone, Machine.step_begin idle next, Machine.step_enter busy free, reached,
      Machine.step_release middleBusy turn, Machine.step_finish releasedPhase]
  · rw [whole]
  · rw [← made]
    exact (settled.release middleBusy turn).finish releasedPhase
  · simp [threads]
  · simp [history, threads]

/-- A run in which nobody has the lock at the end can go on until the next call of a thread
is complete. -/
theorem exists_run_completed {schedule : List ι}
    (explains : Explains store programs (Machine.run store programs schedule) order)
    (thread : ι) (index : Nat) (free : (Machine.run store programs schedule).turn = none)
    (idle : ((Machine.run store programs schedule).threads thread).phase = .idle)
    (made : ((Machine.run store programs schedule).threads thread).made = index)
    (next : (programs thread)[index]? = some call) :
    ∃ longer answer, answer = (call.run (replay store order).store).answer ∧
      Explains store programs (Machine.run store programs longer)
        (order ++ [⟨thread, index, call, answer⟩]) ∧
      (Machine.run store programs longer).turn = none ∧
      (Machine.run store programs longer).threads =
        Function.update (Machine.run store programs schedule).threads thread
          { made := index + 1 } ∧
      (Machine.run store programs longer).history =
        (Machine.run store programs schedule).history ++
          [.began thread index call, .ended thread index answer] := by
  subst made
  obtain ⟨steps, after, answer, reached, others⟩ :=
    explains.exists_completed thread free idle next
  rw [← Machine.run_append_replicate] at reached
  subst reached
  exact ⟨_, answer, others⟩

end Explains

end Shortlink.Concurrent
