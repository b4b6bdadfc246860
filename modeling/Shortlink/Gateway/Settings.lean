import Shortlink.Net.Address

/-!
# Settings of the gateway

Where the gateway listens, and how long a request may take.
-/

namespace Shortlink.Gateway

/-- The settings of the gateway. -/
structure Settings where
  host : Net.Address := .unspecified
  port : UInt16
  /-- How many seconds a request may take. -/
  requestTimeout : UInt64 := 15
  deriving DecidableEq, Repr

namespace Settings

/-- Where the gateway listens. -/
def listenAddress (settings : Settings) : Net.SocketAddress :=
  { host := settings.host, port := settings.port }

/-- How many milliseconds a request may take. -/
def timeoutMilliseconds (settings : Settings) : Nat :=
  settings.requestTimeout.toNat * 1000

/-- A number of seconds as it is shown for inspection. -/
def inspectSeconds (seconds : UInt64) : String :=
  if seconds = 0 then "0ns" else toString seconds.toNat ++ "s"

/-- Settings as they are shown for inspection. -/
def inspect (settings : Settings) : String :=
  "GatewayConfig \x7b host: " ++ settings.host.text ++ ", port: " ++
    toString settings.port.toNat ++ ", request_timeout: " ++
    inspectSeconds settings.requestTimeout ++ " \x7d"

end Settings

end Shortlink.Gateway
