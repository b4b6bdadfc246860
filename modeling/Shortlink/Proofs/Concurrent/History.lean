import Mathlib.Data.List.Basic
import Shortlink.Proofs.Concurrent.Machine

/-!
# The history of calls

Calls take effect one after the other, in the order in which they give the lock
back.  This order is consistent with what can be seen of the calls from outside: a
call takes effect after it has begun and before it returns, and the calls of one
thread take effect in the order of its program.
-/

namespace Shortlink.Concurrent

open Call (Answer)
open scoped List

/-- A call with its thread, its place among the calls of the thread and its answer. -/
structure Operation (ι : Type) where
  thread : ι
  /-- How many calls the thread has made before. -/
  index : Nat
  call : Call
  answer : Answer

namespace Operation

variable {ι : Type}

/-- The beginning of the call. -/
def start (operation : Operation ι) : Mark ι :=
  .began operation.thread operation.index operation.call

/-- The end of the call. -/
def finish (operation : Operation ι) : Mark ι :=
  .ended operation.thread operation.index operation.answer

/-- One call has returned before another one begins. -/
def Precedes (history : List (Mark ι)) (first second : Operation ι) : Prop :=
  [first.finish, second.start] <+ history

end Operation

variable {ι : Type} [DecidableEq ι]

/-- The calls of one thread in an order of calls, with their places. -/
def callsOf (order : List (Operation ι)) (thread : ι) : List (Call × Nat) :=
  (order.filter (·.thread = thread)).map fun operation => (operation.call, operation.index)

/-- How many calls of a thread have taken effect. -/
def Thread.served (thread : Thread) : Nat :=
  match thread.phase with
  | .idle | .busy _ => thread.made
  | .released _ => thread.made + 1

/-- The calls that have taken effect, in order, and the threads and the history agree
with each other. -/
structure Chronicle (programs : ι → List Call) (threads : ι → Thread) (history : List (Mark ι))
    (order : List (Operation ι)) : Prop where
  /-- A call under way is the next one of its thread, and has begun. -/
  calling : ∀ thread call, (threads thread).phase = .busy call →
    (programs thread)[(threads thread).made]? = some call ∧
      .began thread (threads thread).made call ∈ history
  /-- A call that is about to return has taken effect. -/
  leaving : ∀ thread answer, (threads thread).phase = .released answer →
    ∃ call, ⟨thread, (threads thread).made, call, answer⟩ ∈ order
  /-- The calls of a thread have taken effect from the first one on. -/
  served : ∀ thread, callsOf order thread =
    ((programs thread).take (threads thread).served).zipIdx
  /-- What has begun is what the program says. -/
  faithful : ∀ thread index call, .began thread index call ∈ history →
    (programs thread)[index]? = some call
  /-- What has taken effect has begun. -/
  begun : ∀ operation ∈ order, operation.start ∈ history
  /-- What has returned is counted. -/
  counted : ∀ thread index answer, .ended thread index answer ∈ history →
    index < (threads thread).made
  /-- What has returned has taken effect. -/
  complete : ∀ thread index answer, .ended thread index answer ∈ history →
    ∃ call, ⟨thread, index, call, answer⟩ ∈ order
  /-- A call that has returned before another one begins takes effect before it. -/
  realTime : ∀ first ∈ order, ∀ second ∈ order, first.Precedes history second →
    [first, second] <+ order

/-! ## Lists that grow at the end -/

theorem pair_sublist_concat_iff {α : Type} {first second last : α} {list : List α} :
    [first, second] <+ list ++ [last] ↔
      [first, second] <+ list ∨ second = last ∧ first ∈ list := by
  rw [← List.reverse_sublist, ← @List.reverse_sublist α [first, second] list, List.reverse_concat,
    List.reverse_cons, List.reverse_singleton, List.singleton_append, List.cons_sublist_cons',
    List.singleton_sublist, List.mem_reverse]

theorem callsOf_concat_self (order : List (Operation ι)) (last : Operation ι) :
    callsOf (order ++ [last]) last.thread =
      callsOf order last.thread ++ [(last.call, last.index)] := by
  simp [callsOf]

theorem callsOf_concat_of_ne (order : List (Operation ι)) {last : Operation ι} {thread : ι}
    (different : last.thread ≠ thread) :
    callsOf (order ++ [last]) thread = callsOf order thread := by
  simp [callsOf, different]

/-! ## Steps -/

/-- What a step leaves alone in its own thread is left alone in every thread. -/
theorem view_update {β : Type} (view : Thread → β) {threads : ι → Thread} {thread : ι}
    {state : Thread} (same : view state = view (threads thread)) (other : ι) :
    view (Function.update threads thread state other) = view (threads other) := by
  by_cases own : other = thread
  · rw [own, Function.update_self, same]
  · rw [Function.update_of_ne own]

theorem made_update (threads : ι → Thread) (thread other : ι) (phase : Phase) :
    (Function.update threads thread { threads thread with phase } other).made =
      (threads other).made := by
  apply view_update Thread.made
  rfl

/-- A thread in a phase that the step does not lead to has not moved. -/
theorem of_phase_update {threads : ι → Thread} {thread other : ι} {state : Thread} {phase : Phase}
    (there : (Function.update threads thread state other).phase = phase)
    (elsewhere : state.phase ≠ phase) : other ≠ thread ∧ (threads other).phase = phase := by
  have different : other ≠ thread := by
    rintro rfl
    rw [Function.update_self] at there
    contradiction
  rw [Function.update_of_ne different] at there
  exact ⟨different, there⟩

namespace Chronicle

variable {programs : ι → List Call} {threads : ι → Thread} {history : List (Mark ι)}
  {order : List (Operation ι)}

theorem empty (programs : ι → List Call) : Chronicle programs (fun _ => {}) [] [] := by
  constructor <;> intros <;> first | contradiction | rfl

/-- A thread takes effect with its first calls only. -/
theorem index_lt_served (chronicle : Chronicle programs threads history order)
    {operation : Operation ι} (member : operation ∈ order) :
    operation.index < (threads operation.thread).served := by
  have own : (operation.call, operation.index) ∈ callsOf order operation.thread :=
    List.mem_map.mpr ⟨operation, List.mem_filter.mpr ⟨member, by simp⟩, rfl⟩
  rw [chronicle.served] at own
  have inRange := List.snd_lt_of_mem_zipIdx own
  rw [List.length_take] at inRange
  omega

/-- A thread that has nothing under way begins its next call. -/
theorem begin (chronicle : Chronicle programs threads history order) {thread : ι} {call : Call}
    (idle : (threads thread).phase = .idle)
    (next : (programs thread)[(threads thread).made]? = some call) :
    Chronicle programs
      (Function.update threads thread { threads thread with phase := .busy call })
      (history ++ [.began thread (threads thread).made call]) order where
  calling other current busy := by
    by_cases same : other = thread
    · subst same
      rw [Function.update_self, Phase.busy.injEq] at busy
      subst busy
      rw [made_update]
      exact ⟨next, List.mem_append_right history List.mem_cons_self⟩
    · rw [Function.update_of_ne same] at busy ⊢
      obtain ⟨listed, begun⟩ := chronicle.calling other current busy
      exact ⟨listed, List.mem_append_left _ begun⟩
  leaving other answer released := by
    obtain ⟨different, before⟩ := of_phase_update released nofun
    rw [Function.update_of_ne different]
    exact chronicle.leaving other answer before
  served other := by
    rw [chronicle.served, view_update Thread.served]
    rw [Thread.served, Thread.served, idle]
  faithful other index current began := by
    rcases List.mem_append.mp began with old | new
    · exact chronicle.faithful other index current old
    · cases List.mem_singleton.mp new
      exact next
  begun operation member := List.mem_append_left _ (chronicle.begun operation member)
  counted other index answer ended := by
    rw [made_update]
    rcases List.mem_append.mp ended with old | new
    · exact chronicle.counted other index answer old
    · cases List.mem_singleton.mp new
  complete other index answer ended := by
    rcases List.mem_append.mp ended with old | new
    · exact chronicle.complete other index answer old
    · cases List.mem_singleton.mp new
  realTime first firstMember second secondMember earlier := by
    rcases pair_sublist_concat_iff.mp earlier with old | ⟨new, -⟩
    · exact chronicle.realTime first firstMember second secondMember old
    · -- The call that begins has not taken effect yet.
      have inRange := chronicle.index_lt_served secondMember
      obtain ⟨own, place, -⟩ := Mark.began.inj new
      rw [own, place, Thread.served, idle] at inRange
      exact absurd inRange (Nat.lt_irrefl _)

/-- A thread that gives the lock back has its call take effect. -/
theorem release (chronicle : Chronicle programs threads history order) {thread : ι} {call : Call}
    (busy : (threads thread).phase = .busy call) (answer : Answer) :
    Chronicle programs
      (Function.update threads thread { threads thread with phase := .released answer })
      history (order ++ [⟨thread, (threads thread).made, call, answer⟩]) where
  calling other current otherBusy := by
    obtain ⟨different, before⟩ := of_phase_update otherBusy nofun
    rw [Function.update_of_ne different]
    exact chronicle.calling other current before
  leaving other found released := by
    by_cases same : other = thread
    · subst same
      rw [Function.update_self, Phase.released.injEq] at released
      subst released
      rw [made_update]
      exact ⟨call, List.mem_append_right order List.mem_cons_self⟩
    · rw [Function.update_of_ne same] at released ⊢
      obtain ⟨current, member⟩ := chronicle.leaving other found released
      exact ⟨current, List.mem_append_left _ member⟩
  served other := by
    by_cases same : other = thread
    · subst same
      have listed := (chronicle.calling other call busy).1
      have inRange := (List.getElem?_eq_some_iff.mp listed).1
      have before : (threads other).served = (threads other).made := by rw [Thread.served, busy]
      rw [callsOf_concat_self order ⟨other, _, call, answer⟩, chronicle.served, before,
        Function.update_self, Thread.served, List.take_add_one, listed, Option.toList_some,
        List.zipIdx_append, List.length_take, Nat.min_eq_left (Nat.le_of_lt inRange), Nat.zero_add]
      rfl
    · rw [callsOf_concat_of_ne order (Ne.symm same), Function.update_of_ne same,
        chronicle.served]
  faithful := chronicle.faithful
  begun operation member := by
    rcases List.mem_append.mp member with old | new
    · exact chronicle.begun operation old
    · rw [List.mem_singleton.mp new]
      exact (chronicle.calling thread call busy).2
  counted other index found ended := by
    rw [made_update]
    exact chronicle.counted other index found ended
  complete other index found ended := by
    obtain ⟨current, member⟩ := chronicle.complete other index found ended
    exact ⟨current, List.mem_append_left _ member⟩
  realTime first firstMember second secondMember earlier := by
    rcases List.mem_append.mp firstMember with firstOld | firstNew
    · rcases List.mem_append.mp secondMember with secondOld | secondNew
      · have old := chronicle.realTime first firstOld second secondOld earlier
        exact old.trans (List.sublist_append_left order _)
      · exact pair_sublist_concat_iff.mpr (.inr ⟨List.mem_singleton.mp secondNew, firstOld⟩)
    · -- The call that takes effect has not returned yet.
      have ended : first.finish ∈ history := earlier.subset List.mem_cons_self
      rw [List.mem_singleton.mp firstNew] at ended
      exact absurd (chronicle.counted _ _ _ ended) (Nat.lt_irrefl _)

/-- A call that has given the lock back returns. -/
theorem finish (chronicle : Chronicle programs threads history order) {thread : ι}
    {answer : Answer} (released : (threads thread).phase = .released answer) :
    Chronicle programs
      (Function.update threads thread { made := (threads thread).made + 1, phase := .idle })
      (history ++ [.ended thread (threads thread).made answer]) order where
  calling other current busy := by
    obtain ⟨different, before⟩ := of_phase_update busy nofun
    obtain ⟨listed, begun⟩ := chronicle.calling other current before
    rw [Function.update_of_ne different]
    exact ⟨listed, List.mem_append_left _ begun⟩
  leaving other found otherReleased := by
    obtain ⟨different, before⟩ := of_phase_update otherReleased nofun
    rw [Function.update_of_ne different]
    exact chronicle.leaving other found before
  served other := by
    rw [chronicle.served, view_update Thread.served]
    rw [Thread.served, Thread.served, released]
  faithful other index current began := by
    rcases List.mem_append.mp began with old | new
    · exact chronicle.faithful other index current old
    · cases List.mem_singleton.mp new
  begun operation member := List.mem_append_left _ (chronicle.begun operation member)
  counted other index found ended := by
    rcases List.mem_append.mp ended with old | new
    · have counted := chronicle.counted other index found old
      by_cases same : other = thread
      · subst same
        rw [Function.update_self]
        exact Nat.lt_succ_of_lt counted
      · rwa [Function.update_of_ne same]
    · cases List.mem_singleton.mp new
      rw [Function.update_self]
      exact Nat.lt_succ_self _
  complete other index found ended := by
    rcases List.mem_append.mp ended with old | new
    · exact chronicle.complete other index found old
    · cases List.mem_singleton.mp new
      exact chronicle.leaving thread answer released
  realTime first firstMember second secondMember earlier := by
    rcases pair_sublist_concat_iff.mp earlier with old | ⟨new, -⟩
    · exact chronicle.realTime first firstMember second secondMember old
    · cases new

end Chronicle

end Shortlink.Concurrent
