import Shortlink.Store.Basic

/-!
# Calls

The calls that a client can make on a key store, as data, so that runs of calls can
be written down and compared.
-/

namespace Shortlink

/-- A call on a store. -/
inductive Call
  | shorten (url : String)
  | resolve (key : String)
  | contains (key : String)
  | allocated
  deriving DecidableEq, Repr

namespace Call

inductive Answer
  | code (code : ShortCode)
  /-- The URL under a key, or why there is none. -/
  | url (found : Except KeyError String)
  | truth (value : Bool)
  | count (value : UInt64)
  /-- The sequence was at its end. -/
  | exhausted (failure : Exhausted)

variable {σ : Type} [KeyStore σ]

def run (store : σ) : Call → Outcome σ Answer
  | .shorten url =>
      let outcome := KeyStore.shorten store url
      { outcome with
        answer := match outcome.answer with
          | .ok code => .code code
          | .error failure => .exhausted failure }
  | .resolve key =>
      let (found, events) := KeyStore.resolve store key
      { answer := .url found, store, events }
  | .contains key => { answer := .truth (KeyStore.contains store key), store, events := [] }
  | .allocated => { answer := .count (KeyStore.allocated store), store, events := [] }

/-- Makes calls one after the other. -/
def runAll (store : σ) : List Call → Outcome σ (List Answer)
  | [] => { answer := [], store, events := [] }
  | call :: calls =>
      let first := call.run store
      let rest := runAll first.store calls
      { answer := first.answer :: rest.answer
        store := rest.store
        events := first.events ++ rest.events }

end Call

end Shortlink
