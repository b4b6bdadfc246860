import Shortlink.Proofs.Concurrent.History
import Shortlink.Proofs.Store.Runs

/-!
# Calls in one order

However the threads take turns, their calls answer what they would have answered
one after the other, in the order in which they gave the lock back.  The invariant
behind this says what the store holds while a call is under way: the contents left
by the calls before, changed by the steps that the call has taken so far.
-/

namespace Shortlink.Concurrent

open Call (Answer)
open scoped List

/-! ## Inside the lock -/

/-- The events that are reported inside the lock. -/
def reported (events : List Log.Event) : List Log.Event :=
  events.filter (·.level ≠ .trace)

/-- What a call has done, on a store that was `before` when it took the lock, and what
it has reported, when it has got to a stage. -/
def Stage.Reached (call : Call) (before : MemoryStore) :
    Stage → MemoryStore → List Log.Event → Prop
  | .entered current, store, said => current = call ∧ store = before ∧ said = []
  | .unknown url, store, said =>
      call = .shorten url ∧ before.codes[url]? = none ∧ store = before ∧ said = []
  | .counted url code, store, said =>
      ∃ sequence, call = .shorten url ∧ before.codes[url]? = none ∧
        before.sequence.nextCode = .ok (code, sequence) ∧
        store = before.withSequence sequence ∧ said = []
  | .filed url code, store, said =>
      ∃ sequence, call = .shorten url ∧ before.codes[url]? = none ∧
        before.sequence.nextCode = .ok (code, sequence) ∧
        store = (before.withSequence sequence).putUrl code url ∧ said = []
  | .reporting event answer, store, said =>
      call.run before = { answer, store, events := [event] } ∧ said = []
  | .settled answer, store, said =>
      ∃ events, call.run before = { answer, store, events } ∧ said = reported events

namespace Stage

theorem eq_settled_of_answer? {stage : Stage} {answer : Answer}
    (done : stage.answer? = some answer) : stage = .settled answer := by
  cases stage with
  | settled found => rw [Option.some.inj done]
  | _ => contradiction

section Steps

variable {store : MemoryStore} {url : String}

theorem advance_known {code : ShortCode} (found : store.codes[url]? = some code) :
    (entered (.shorten url)).advance store =
      { answer := .reporting (.reused code url) (.code code), store, events := [] } := by
  simp only [advance, found]

theorem advance_unknown (fresh : store.codes[url]? = none) :
    (entered (.shorten url)).advance store = { answer := .unknown url, store, events := [] } := by
  simp only [advance, fresh]

theorem advance_exhausted {failure : Exhausted}
    (full : store.sequence.nextCode = .error failure) :
    (unknown url).advance store =
      { answer := .settled (.exhausted failure), store, events := [] } := by
  simp only [advance, full]

theorem advance_counted {issued : ShortCode × Sequence}
    (next : store.sequence.nextCode = .ok issued) :
    (unknown url).advance store =
      { answer := .counted url issued.1, store := store.withSequence issued.2, events := [] } := by
  simp only [advance, next]

end Steps

end Stage

namespace Stage.Reached

variable {call : Call} {before store : MemoryStore} {said : List Log.Event} {stage : Stage}

/-- A call keeps to what it does alone, step by step. -/
theorem advance (reached : stage.Reached call before store said) :
    (stage.advance store).answer.Reached call before (stage.advance store).store
      (said ++ reported (stage.advance store).events) := by
  cases stage with
  | entered current =>
      obtain ⟨rfl, rfl, rfl⟩ := reached
      cases current with
      | shorten url =>
          cases found : store.codes[url]? with
          | none =>
              rw [advance_unknown found]
              exact ⟨rfl, found, rfl, rfl⟩
          | some code =>
              rw [advance_known found]
              refine ⟨?_, rfl⟩
              simp only [Call.run, KeyStore.shorten, MemoryStore.shorten, found]
      | resolve key => exact ⟨[.resolving key], rfl, rfl⟩
      | contains key => exact ⟨[], rfl, rfl⟩
      | allocated => exact ⟨[], rfl, rfl⟩
  | unknown url =>
      obtain ⟨rfl, fresh, rfl, rfl⟩ := reached
      cases next : store.sequence.nextCode with
      | error failure =>
          rw [advance_exhausted next]
          refine ⟨[], ?_, rfl⟩
          simp only [Call.run, KeyStore.shorten, MemoryStore.shorten, fresh, next]
      | ok issued =>
          rw [advance_counted next]
          exact ⟨issued.2, rfl, fresh, next, rfl, rfl⟩
  | counted url code =>
      obtain ⟨sequence, rfl, fresh, next, rfl, rfl⟩ := reached
      exact ⟨sequence, rfl, fresh, next, rfl, rfl⟩
  | filed url code =>
      obtain ⟨sequence, rfl, fresh, next, rfl, rfl⟩ := reached
      refine ⟨?_, rfl⟩
      simp only [Call.run, KeyStore.shorten, MemoryStore.shorten, fresh, next]
      rfl
  | reporting event answer =>
      obtain ⟨whole, rfl⟩ := reached
      exact ⟨[event], whole, rfl⟩
  | settled answer =>
      obtain ⟨events, whole, rfl⟩ := reached
      exact ⟨events, whole, List.append_nil _⟩

end Stage.Reached

/-! ## Between the calls -/

variable {ι : Type}

/-- What calls do in this order, one after the other. -/
def replay (store : MemoryStore) (order : List (Operation ι)) :
    Outcome MemoryStore (List Answer) :=
  Call.runAll store (order.map Operation.call)

theorem store_replay_append (store : MemoryStore) (before after : List (Operation ι)) :
    (replay store (before ++ after)).store = (replay (replay store before).store after).store := by
  rw [replay, List.map_append, Call.runAll_append]
  rfl

theorem replay_concat (store : MemoryStore) (order : List (Operation ι)) (last : Operation ι) :
    replay store (order ++ [last]) =
      { answer := (replay store order).answer ++
          [(last.call.run (replay store order).store).answer]
        store := (last.call.run (replay store order).store).store
        events := (replay store order).events ++
          (last.call.run (replay store order).store).events } := by
  rw [replay, List.map_append, List.map_singleton, Call.runAll_concat]
  rfl

variable [DecidableEq ι]

/-- The calls that have taken effect, in order, explain the state of a machine. -/
structure Explains (store : MemoryStore) (programs : ι → List Call) (machine : Machine ι)
    (order : List (Operation ι)) : Prop where
  /-- The order agrees with the threads and the history. -/
  chronicle : Chronicle programs machine.threads machine.history order
  /-- The answers are those of the calls made one after the other. -/
  answered : order.map Operation.answer = (replay store order).answer
  /-- While nobody has the lock, the store is what these calls leave. -/
  free : machine.turn = none →
    machine.store = (replay store order).store ∧
      reported machine.events = reported (replay store order).events
  /-- While a thread has the lock, its call has gone on from there. -/
  held : ∀ owner stage, machine.turn = some (owner, stage) →
    ∃ call said, (machine.threads owner).phase = .busy call ∧
      stage.Reached call (replay store order).store machine.store said ∧
      reported machine.events = reported (replay store order).events ++ said

namespace Explains

variable {store : MemoryStore} {programs : ι → List Call} {machine : Machine ι}
  {order : List (Operation ι)}

theorem empty (store : MemoryStore) (programs : ι → List Call) :
    Explains store programs { store } [] where
  chronicle := Chronicle.empty programs
  answered := rfl
  free _ := ⟨rfl, rfl⟩
  held owner stage taken := by contradiction

theorem begin (explains : Explains store programs machine order) {thread : ι} {call : Call}
    (idle : (machine.threads thread).phase = .idle)
    (next : (programs thread)[(machine.threads thread).made]? = some call) :
    Explains store programs (machine.begin thread call) order := by
  have quiet : reported (machine.events ++ announced call) = reported machine.events := by
    rw [reported, List.filter_append]
    cases call <;> simp [announced, reported, Log.Event.level]
  exact {
    chronicle := explains.chronicle.begin idle next
    answered := explains.answered
    free := fun free => by
      obtain ⟨contents, said⟩ := explains.free free
      exact ⟨contents, quiet.trans said⟩
    held := fun owner stage taken => by
      obtain ⟨current, said, busy, reached, told⟩ := explains.held owner stage taken
      have different : owner ≠ thread := by
        rintro rfl
        rw [idle] at busy
        contradiction
      refine ⟨current, said, ?_, reached, quiet.trans told⟩
      rw [← busy]
      exact congrArg Thread.phase (Function.update_of_ne different ..) }

theorem enter (explains : Explains store programs machine order) {thread : ι} {call : Call}
    (busy : (machine.threads thread).phase = .busy call) (free : machine.turn = none) :
    Explains store programs (machine.enter thread call) order where
  chronicle := explains.chronicle
  answered := explains.answered
  free taken := by contradiction
  held owner stage taken := by
    obtain ⟨rfl, rfl⟩ := Prod.mk.inj (Option.some.inj taken)
    obtain ⟨contents, said⟩ := explains.free free
    exact ⟨call, [], busy, ⟨rfl, contents, rfl⟩, said.trans (List.append_nil _).symm⟩

theorem work (explains : Explains store programs machine order) {thread : ι} {stage : Stage}
    (own : machine.turn = some (thread, stage)) :
    Explains store programs (machine.work thread stage) order where
  chronicle := explains.chronicle
  answered := explains.answered
  free taken := by contradiction
  held owner current taken := by
    obtain ⟨rfl, rfl⟩ := Prod.mk.inj (Option.some.inj taken)
    obtain ⟨call, said, busy, reached, told⟩ := explains.held thread stage own
    refine ⟨call, _, busy, reached.advance, ?_⟩
    change reported (machine.events ++ _) = _
    rw [reported, List.filter_append, ← reported, told, List.append_assoc]
    rfl

theorem settled (explains : Explains store programs machine order) {thread : ι} {call : Call}
    {answer : Answer} (busy : (machine.threads thread).phase = .busy call)
    (own : machine.turn = some (thread, .settled answer)) :
    ∃ events, call.run (replay store order).store = { answer, store := machine.store, events } ∧
      reported machine.events = reported (replay store order).events ++ reported events := by
  obtain ⟨current, said, currentBusy, ⟨events, whole, rfl⟩, told⟩ := explains.held thread _ own
  rw [busy, Phase.busy.injEq] at currentBusy
  subst currentBusy
  exact ⟨events, whole, told⟩

theorem release (explains : Explains store programs machine order) {thread : ι} {call : Call}
    {answer : Answer} (busy : (machine.threads thread).phase = .busy call)
    (own : machine.turn = some (thread, .settled answer)) :
    Explains store programs (machine.release thread answer)
      (order ++ [⟨thread, (machine.threads thread).made, call, answer⟩]) := by
  obtain ⟨events, whole, told⟩ := explains.settled busy own
  refine ⟨explains.chronicle.release busy answer, ?_, fun _ => ?_, fun _ _ taken => ?_⟩
  · rw [replay_concat, List.map_append, explains.answered, whole]
    rfl
  · rw [replay_concat, whole]
    refine ⟨rfl, told.trans ?_⟩
    rw [reported, reported, reported, List.filter_append]
  · contradiction

theorem finish (explains : Explains store programs machine order) {thread : ι} {answer : Answer}
    (released : (machine.threads thread).phase = .released answer) :
    Explains store programs (machine.finish thread answer) order where
  chronicle := explains.chronicle.finish released
  answered := explains.answered
  free := explains.free
  held owner stage taken := by
    obtain ⟨current, said, busy, reached, told⟩ := explains.held owner stage taken
    have different : owner ≠ thread := by
      rintro rfl
      rw [released] at busy
      contradiction
    refine ⟨current, said, ?_, reached, told⟩
    rw [← busy]
    exact congrArg Thread.phase (Function.update_of_ne different ..)

/-- After any step the calls that have taken effect, and perhaps one more, explain the
machine. -/
theorem step (explains : Explains store programs machine order) (thread : ι) :
    ∃ longer, Explains store programs (machine.step programs thread) longer := by
  unfold Machine.step
  split
  case h_1 idle =>
    split
    case h_1 => exact ⟨order, explains⟩
    case h_2 call next => exact ⟨order, explains.begin idle next⟩
  case h_2 call busy =>
    split
    case h_1 free => exact ⟨order, explains.enter busy free⟩
    case h_2 owner stage taken =>
      split
      case isFalse => exact ⟨order, explains⟩
      case isTrue own =>
        subst own
        split
        case h_1 => exact ⟨order, explains.work taken⟩
        case h_2 answer done =>
          rw [Stage.eq_settled_of_answer? done] at taken
          exact ⟨_, explains.release busy taken⟩
  case h_3 answer released => exact ⟨order, explains.finish released⟩

/-- Every state that the threads can reach is explained by calls made one after the
other. -/
theorem run (store : MemoryStore) (programs : ι → List Call) (schedule : List ι) :
    ∃ order, Explains store programs (Machine.run store programs schedule) order := by
  have steps (machine : Machine ι) (order : List (Operation ι))
      (explains : Explains store programs machine order) :
      ∃ longer, Explains store programs (schedule.foldl (Machine.step programs) machine)
        longer := by
    induction schedule generalizing machine order with
    | nil => exact ⟨order, explains⟩
    | cons thread rest ih =>
        obtain ⟨longer, moved⟩ := explains.step thread
        exact ih _ longer moved
  exact steps _ [] (empty store programs)

end Explains

end Shortlink.Concurrent
