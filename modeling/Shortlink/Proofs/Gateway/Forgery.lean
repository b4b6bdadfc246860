import Shortlink.Log.Logger
import Shortlink.Proofs.Gateway.Serve
import Shortlink.Proofs.Http.PercentEncoding
import Shortlink.Proofs.Log.Filtering
import Shortlink.Proofs.Text.Lines
import Shortlink.Store.Memory

/-!
# Lines that clients write

A key that leads nowhere is shown as it is, at the end of a line of text.  A client that asks
for a key with the end of a line in it gets a line of its own into the log that way, and nothing
tells it from the others.
-/

namespace Shortlink

namespace Http

open Json (IsHexDigit)

/-! ## Keys in paths -/

/-- The escape of a byte. -/
def escape (byte : UInt8) : List Char :=
  ['%', Nat.digitChar (byte.toNat / 16), Nat.digitChar (byte.toNat % 16)]

end Http

/-! ## Lines of text -/

namespace Log.Logger

variable {logger : Logger}

end Logger

end Log

namespace Gateway

open Http (Request)

/-! ## Requests -/

end Gateway

end Shortlink
