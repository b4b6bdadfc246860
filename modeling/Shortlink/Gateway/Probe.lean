import Shortlink.Decimal.Numeral
import Shortlink.Gateway.Site

/-!
# The probe

A site whose handlers take their time or panic, so that the layers around every
handler can be watched at work.
-/

namespace Shortlink.Gateway

open Http (Request Response)

variable {σ : Type}

/-- Answers with a text. -/
def say (text : String) (store : σ) : Work σ :=
  .answer store (.plain 200 text) []

/-- Waits for the milliseconds that a piece of a path spells. -/
def wait (piece : String) (store : σ) : Work σ :=
  match Http.percentDecodeText? piece with
  | none => .refuse store (.undecodableParameter "ms")
  | some text =>
      match Decimal.readUnsigned text with
      | .error _ => .refuse store (.numberExpected text)
      | .ok milliseconds => (say "done" store).after milliseconds.toNat

/-- A resource that does the same whatever it is sent. -/
def shown (work : σ → Work σ) : Option (Resource σ) :=
  some { verb := .get, handle := fun store _ => work store }

/-- The site of the probe. -/
def probeSite : Site σ
  | ["", "fine"] => shown (say "fine")
  | ["", "panic-str"] => shown fun store => .panic store (.fixed "handler exploded") []
  | ["", "panic-string"] => shown fun store => .panic store (.composed "handler exploded 42") []
  | ["", "panic-any"] => shown fun store => .panic store .other []
  | ["", "slow-panic"] => shown fun store => (Work.panic store (.fixed "late") []).after 50
  | ["", "slow", piece] => if piece.isEmpty then none else shown (wait piece)
  | _ => none

end Shortlink.Gateway
