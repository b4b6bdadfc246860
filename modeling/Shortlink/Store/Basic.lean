import Shortlink.Sequence
import Shortlink.Log.Event

/-!
# Key stores

A key store shortens URLs to codes and resolves keys to URLs.  A call answers,
leaves a store behind, and may have events to report.
-/

namespace Shortlink

/-- What a call that may change its store leads to. -/
structure Outcome (σ α : Type) where
  /-- What the call answers. -/
  answer : α
  /-- The store after the call. -/
  store : σ
  /-- What happened during the call. -/
  events : List Log.Event

/-- A store of URLs under short codes. -/
class KeyStore (σ : Type) where
  /-- The code of a URL, issued if need be. -/
  shorten : σ → String → Outcome σ (Except Exhausted ShortCode)
  /-- The URL under a key, and the events of looking for it. -/
  resolve : σ → String → Except KeyError String × List Log.Event
  /-- Whether there is a URL under a key. -/
  contains : σ → String → Bool
  /-- How many codes have been issued. -/
  allocated : σ → UInt64

end Shortlink
