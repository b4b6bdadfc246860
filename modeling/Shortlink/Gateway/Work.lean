import Shortlink.Gateway.Failure
import Shortlink.Gateway.Refusal
import Shortlink.Store.Basic

/-!
# The work of a handler

A handler waits for some time and then answers or panics.  Its work records what becomes
of the store and which events happen on the way.  All of that comes after the delay: a
handler that is given up while it waits has neither touched the store nor reported anything.
-/

namespace Shortlink.Gateway

open Http (Response)

/-- What a panic carries. -/
inductive Payload
  /-- A text that is part of the program. -/
  | fixed (text : String)
  /-- A text that is put together when it is needed. -/
  | composed (text : String)
  /-- Something that is no text. -/
  | other
  deriving DecidableEq, Repr

/-- What is reported of a panic. -/
def Payload.detail : Payload → String
  | .fixed text | .composed text => text
  | .other => "unknown panic payload"

/-- How the work of a handler ends. -/
inductive Ending
  | answer (response : Response)
  | panic (payload : Payload)
  deriving DecidableEq, Repr

/-- The work of a handler. -/
structure Work (σ : Type) where
  /-- The milliseconds that it waits before it does anything. -/
  delay : Nat := 0
  ending : Ending
  /-- The store at its end. -/
  store : σ
  /-- What is reported, all of it once the delay is over. -/
  events : List Log.Event := []

namespace Work

variable {σ : Type}

/-- Answers at once. -/
def answer (store : σ) (response : Response) (events : List Log.Event) : Work σ :=
  { ending := .answer response, store, events }

/-- Fails at once. -/
def fail (store : σ) (failure : Failure) (events : List Log.Event) : Work σ :=
  answer store failure.response events

def refuse (store : σ) (refusal : Refusal) : Work σ :=
  answer store refusal.response [refusal.event]

/-- Panics at once. -/
def panic (store : σ) (payload : Payload) (events : List Log.Event) : Work σ :=
  { ending := .panic payload, store, events }

/-- Does the same after some more milliseconds. -/
def after (milliseconds : Nat) (work : Work σ) : Work σ :=
  { work with delay := work.delay + milliseconds }

end Work

end Shortlink.Gateway
