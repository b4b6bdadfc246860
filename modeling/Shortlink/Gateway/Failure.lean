import Shortlink.ShortCode
import Shortlink.Http.Message
import Shortlink.Json.Writer

/-!
# Failures

A client learns the kind of a failure and nothing else.  What went wrong in
particular is for the log.
-/

namespace Shortlink.Gateway

open Http (Response)

/-- What can go wrong with a request that a handler has accepted. -/
inductive Failure
  | notFound (key : String)
  | invalidRequest (detail : String)
  /-- The URL under this key cannot be sent in a header. -/
  | invalidRedirect (key : String)
  /-- The handler has panicked. -/
  | internal
  deriving DecidableEq, Repr

namespace Failure

/-- The status of the response. -/
def status : Failure → Nat
  | .notFound _ => 404
  | .invalidRequest _ => 400
  | .invalidRedirect _ | .internal => 500

/-- What the client is told. -/
def publicMessage : Failure → String
  | .notFound _ => "key not found"
  | .invalidRequest _ => "invalid request"
  | .invalidRedirect _ | .internal => "internal server error"

/-- What the operator is told. -/
def message : Failure → String
  | .notFound key => "key not found: " ++ key
  | .invalidRequest detail => "invalid request: " ++ detail
  | .invalidRedirect key => "stored url for key " ++ key ++ " is not a valid redirect target"
  | .internal => "internal server error"

/-- A failure as it is shown for inspection. -/
def inspect : Failure → String
  | .notFound key => "NotFound(" ++ Text.quote key ++ ")"
  | .invalidRequest detail => "InvalidRequest(" ++ Text.quote detail ++ ")"
  | .invalidRedirect key => "InvalidRedirect(" ++ Text.quote key ++ ")"
  | .internal => "Internal"

/-- The response to a request that has failed. -/
def response (failure : Failure) : Response :=
  .json failure.status (Json.object [("error", Json.string failure.publicMessage)])

/-- A key that leads nowhere, as a failure of the request. -/
def ofKeyError : KeyError → Failure
  | .notFound key => .notFound key
  | .invalid detail => .invalidRequest detail

end Failure

end Shortlink.Gateway
