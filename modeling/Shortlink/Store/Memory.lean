import Std.Data.HashMap
import Shortlink.Store.Basic

/-!
# The store in memory

The store keeps every URL it has seen under exactly one code, in two maps that
are inverse to each other, beside the sequence that issued the codes.
-/

namespace Shortlink

/-- A store that issues one code for each distinct URL. -/
structure MemoryStore where
  sequence : Sequence := {}
  /-- The URL under the text of each code issued. -/
  urls : Std.HashMap String String := ∅
  /-- The code of each URL seen. -/
  codes : Std.HashMap String ShortCode := ∅

namespace MemoryStore

/-- The store before the first URL. -/
def empty : MemoryStore := {}

/-- Moves the sequence to the one given. -/
def withSequence (store : MemoryStore) (sequence : Sequence) : MemoryStore :=
  { store with sequence }

/-- Files a URL under a code. -/
def putUrl (store : MemoryStore) (code : ShortCode) (url : String) : MemoryStore :=
  { store with urls := store.urls.insert code.text url }

/-- Files a code under a URL. -/
def putCode (store : MemoryStore) (url : String) (code : ShortCode) : MemoryStore :=
  { store with codes := store.codes.insert url code }

/-- The code of a URL: the one it has, or else a new one.  At the end of the
sequence a new URL is refused and nothing changes. -/
def shorten (store : MemoryStore) (url : String) :
    Outcome MemoryStore (Except Exhausted ShortCode) :=
  match store.codes[url]? with
  | some code => { answer := .ok code, store, events := [.reused code url] }
  | none =>
      match store.sequence.nextCode with
      | .error failure => { answer := .error failure, store, events := [] }
      | .ok (code, sequence) =>
          { answer := .ok code
            store := ((store.withSequence sequence).putUrl code url).putCode url code
            events := [.allocated code url sequence.current] }

/-- The URL under a key. -/
def resolve (store : MemoryStore) (key : String) : Except KeyError String :=
  match store.urls[key]? with
  | some url => .ok url
  | none => .error (.notFound key)

/-- Whether a key is that of a URL. -/
def contains (store : MemoryStore) (key : String) : Bool :=
  store.urls.contains key

/-- How many codes have been issued. -/
def allocated (store : MemoryStore) : UInt64 :=
  store.sequence.current

instance : KeyStore MemoryStore where
  shorten := shorten
  resolve store key := (store.resolve key, [.resolving key])
  contains := contains
  allocated := allocated

/-- A store as it is shown for inspection.  The entries of its maps stand in no
particular order. -/
def inspect (store : MemoryStore) : String :=
  let braced (entries : List String) : String := "\x7b" ++ ", ".intercalate entries ++ "\x7d"
  let urls := store.urls.toList.map fun (code, url) =>
    "ShortCode(" ++ Text.quote code ++ "): " ++ Text.quote url
  let codes := store.codes.toList.map fun (url, code) => Text.quote url ++ ": " ++ code.inspect
  "InMemoryKeyStore \x7b state: Mutex \x7b data: State \x7b sequence: " ++
    store.sequence.inspect ++ ", forward: " ++ braced urls ++ ", reverse: " ++ braced codes ++
    " \x7d \x7d \x7d"

end MemoryStore

end Shortlink
