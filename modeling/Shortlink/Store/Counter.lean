import Shortlink.Store.Basic

/-!
# The store that only counts

A store without a memory: every call to shorten issues a new code, whatever the
URL, and a code resolves to the number that it denotes.
-/

namespace Shortlink

/-- A store that issues a new code for every call. -/
structure CounterStore where
  sequence : Sequence := {}

namespace CounterStore

/-- The next code. -/
def shorten (store : CounterStore) (_url : String) :
    Outcome CounterStore (Except Exhausted ShortCode) :=
  match store.sequence.nextCode with
  | .error failure => { answer := .error failure, store, events := [] }
  | .ok (code, sequence) => { answer := .ok code, store := { sequence }, events := [] }

/-- The number that a key denotes, in decimal. -/
def resolve (key : String) : Except KeyError String := do
  let code ← (ShortCode.parse key).mapError ParseError.toKeyError
  let number ← code.number.mapError Base62.DecodeError.toKeyError
  return toString number.toNat

instance : KeyStore CounterStore where
  shorten := shorten
  resolve _ key := (resolve key, [])
  contains _ key := Base62.isNumeral key
  allocated store := store.sequence.current

end CounterStore

end Shortlink
