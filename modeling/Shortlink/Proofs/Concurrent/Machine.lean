import Mathlib.Logic.Function.Basic
import Shortlink.Store.Call
import Shortlink.Store.Memory

/-!
# Threads that share a store

Any number of threads make calls on one store in memory, each call after the
other of its own.  A lock gives one thread at a time the store to itself.  A call
takes many steps: it begins, takes the lock, reads and writes one part of the
store at a time, gives the lock back and returns.  Between any two of these the
other threads may take steps of theirs.  A thread need not go on: one that is
stopped by the end of the sequence takes no more steps.
-/

namespace Shortlink.Concurrent

open Call (Answer)

/-- How far a call has got since it took the lock. -/
inductive Stage
  /-- Nothing has been done yet. -/
  | entered (call : Call)
  /-- The URL has been found to have no code. -/
  | unknown (url : String)
  /-- The sequence has issued a code for the URL. -/
  | counted (url : String) (code : ShortCode)
  /-- The URL has been filed under the code. -/
  | filed (url : String) (code : ShortCode)
  /-- An event is to be reported before the call answers. -/
  | reporting (event : Log.Event) (answer : Answer)
  /-- Only the lock remains to be given back. -/
  | settled (answer : Answer)

namespace Stage

/-- The answer of a call that is done with the store. -/
def answer? : Stage → Option Answer
  | .settled answer => some answer
  | .entered _ | .unknown _ | .counted .. | .filed .. | .reporting .. => none

/-- The next step of a call that has the store to itself. -/
def advance (store : MemoryStore) : Stage → Outcome MemoryStore Stage
  | .entered (.shorten url) =>
      match store.codes[url]? with
      | some code => { answer := .reporting (.reused code url) (.code code), store, events := [] }
      | none => { answer := .unknown url, store, events := [] }
  | .entered (.resolve key) =>
      { answer := .settled (.url (store.resolve key)), store, events := [] }
  | .entered (.contains key) =>
      { answer := .settled (.truth (store.contains key)), store, events := [] }
  | .entered .allocated => { answer := .settled (.count store.allocated), store, events := [] }
  | .unknown url =>
      match store.sequence.nextCode with
      | .error failure => { answer := .settled (.exhausted failure), store, events := [] }
      | .ok (code, sequence) =>
          { answer := .counted url code, store := store.withSequence sequence, events := [] }
  | .counted url code =>
      { answer := .filed url code, store := store.putUrl code url, events := [] }
  | .filed url code =>
      { answer := .reporting (.allocated code url store.allocated) (.code code)
        store := store.putCode url code
        events := [] }
  | .reporting event answer => { answer := .settled answer, store, events := [event] }
  | .settled answer => { answer := .settled answer, store, events := [] }

end Stage

/-- Where a thread is between its calls and in them. -/
inductive Phase
  /-- No call is under way. -/
  | idle
  /-- A call has begun and has not given the lock back. -/
  | busy (call : Call)
  /-- A call has given the lock back and has not returned. -/
  | released (answer : Answer)

structure Thread where
  /-- How many calls have returned. -/
  made : Nat := 0
  phase : Phase := .idle

/-- What can be seen of a call from outside.  A call is known by its thread and its
place among the calls of this thread. -/
inductive Mark (ι : Type)
  | began (thread : ι) (index : Nat) (call : Call)
  | ended (thread : ι) (index : Nat) (answer : Answer)

/-- Threads and the store that they share. -/
structure Machine (ι : Type) where
  store : MemoryStore
  /-- The thread that has the lock, and how far its call has got. -/
  turn : Option (ι × Stage) := none
  threads : ι → Thread := fun _ => {}
  /-- The beginnings and the ends of calls, in the order of time. -/
  history : List (Mark ι) := []
  /-- The events reported, in the order of time. -/
  events : List Log.Event := []

/-- What a call reports before it takes the lock. -/
def announced : Call → List Log.Event
  | .resolve key => [.resolving key]
  | .shorten _ | .contains _ | .allocated => []

namespace Machine

variable {ι : Type}

/-- A thread takes the lock. -/
def enter (machine : Machine ι) (thread : ι) (call : Call) : Machine ι :=
  { machine with turn := some (thread, .entered call) }

/-- The thread that has the lock takes its next step. -/
def work (machine : Machine ι) (thread : ι) (stage : Stage) : Machine ι :=
  let outcome := stage.advance machine.store
  { machine with
    store := outcome.store
    turn := some (thread, outcome.answer)
    events := machine.events ++ outcome.events }

section Parts

variable (machine : Machine ι) (thread : ι) (call : Call) (stage : Stage)

@[simp] theorem threads_enter : (machine.enter thread call).threads = machine.threads :=
  rfl

@[simp] theorem turn_enter : (machine.enter thread call).turn = some (thread, .entered call) :=
  rfl

@[simp] theorem history_enter : (machine.enter thread call).history = machine.history :=
  rfl

@[simp] theorem threads_work : (machine.work thread stage).threads = machine.threads :=
  rfl

@[simp] theorem turn_work :
    (machine.work thread stage).turn = some (thread, (stage.advance machine.store).answer) :=
  rfl

@[simp] theorem history_work : (machine.work thread stage).history = machine.history :=
  rfl

end Parts

variable [DecidableEq ι]

/-- Puts one thread in another state. -/
def put (machine : Machine ι) (thread : ι) (state : Thread) : Machine ι :=
  { machine with threads := Function.update machine.threads thread state }

/-- A thread begins its next call. -/
def begin (machine : Machine ι) (thread : ι) (call : Call) : Machine ι :=
  let made := (machine.threads thread).made
  { machine.put thread { made, phase := .busy call } with
    history := machine.history ++ [.began thread made call]
    events := machine.events ++ announced call }

/-- A thread gives the lock back. -/
def release (machine : Machine ι) (thread : ι) (answer : Answer) : Machine ι :=
  { machine.put thread { machine.threads thread with phase := .released answer } with
    turn := none }

def finish (machine : Machine ι) (thread : ι) (answer : Answer) : Machine ι :=
  let made := (machine.threads thread).made
  { machine.put thread { made := made + 1, phase := .idle } with
    history := machine.history ++ [.ended thread made answer] }

section Parts

variable (machine : Machine ι) (thread : ι) (call : Call) (answer : Answer)

@[simp] theorem threads_begin :
    (machine.begin thread call).threads =
      Function.update machine.threads thread
        { machine.threads thread with phase := .busy call } :=
  rfl

@[simp] theorem turn_begin : (machine.begin thread call).turn = machine.turn :=
  rfl

@[simp] theorem history_begin :
    (machine.begin thread call).history =
      machine.history ++ [.began thread (machine.threads thread).made call] :=
  rfl

@[simp] theorem threads_release :
    (machine.release thread answer).threads =
      Function.update machine.threads thread
        { machine.threads thread with phase := .released answer } :=
  rfl

@[simp] theorem turn_release : (machine.release thread answer).turn = none :=
  rfl

@[simp] theorem history_release : (machine.release thread answer).history = machine.history :=
  rfl

@[simp] theorem threads_finish :
    (machine.finish thread answer).threads =
      Function.update machine.threads thread { made := (machine.threads thread).made + 1 } :=
  rfl

@[simp] theorem turn_finish : (machine.finish thread answer).turn = machine.turn :=
  rfl

@[simp] theorem history_finish :
    (machine.finish thread answer).history =
      machine.history ++ [.ended thread (machine.threads thread).made answer] :=
  rfl

end Parts

/-- A thread takes a step.  It stays where it is when another one has the lock that
it needs, or when it has no calls left. -/
def step (programs : ι → List Call) (machine : Machine ι) (thread : ι) : Machine ι :=
  match (machine.threads thread).phase with
  | .idle =>
      match (programs thread)[(machine.threads thread).made]? with
      | none => machine
      | some call => machine.begin thread call
  | .busy call =>
      match machine.turn with
      | none => machine.enter thread call
      | some (owner, stage) =>
          if owner = thread then
            match stage.answer? with
            | none => machine.work thread stage
            | some answer => machine.release thread answer
          else machine
  | .released answer => machine.finish thread answer

/-- The machine after steps of the threads that are named one after the other. -/
def run (store : MemoryStore) (programs : ι → List Call) (schedule : List ι) : Machine ι :=
  schedule.foldl (step programs) { store }

end Machine

end Shortlink.Concurrent
