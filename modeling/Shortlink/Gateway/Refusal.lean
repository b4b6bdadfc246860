import Shortlink.Http.Message
import Shortlink.Log.Event

/-!
# Refusals

A request is refused, in plain words, when a handler cannot get hold of what it
works on: the body or the parameter in the path.
-/

namespace Shortlink.Gateway

open Http (Response)

/-- Why a request does not get as far as its handler. -/
inductive Refusal
  | bodyTooLong
  /-- A parameter in the path does not spell a text. -/
  | undecodableParameter (name : String)
  | numberExpected (text : String)
  deriving DecidableEq, Repr

namespace Refusal

/-- The status of the response. -/
def status : Refusal → Nat
  | .bodyTooLong => 413
  | .undecodableParameter _ | .numberExpected _ => 400

/-- What the client is told. -/
def message : Refusal → String
  | .bodyTooLong => "Failed to buffer the request body: length limit exceeded"
  | .undecodableParameter name => "Invalid URL: Invalid UTF-8 in `" ++ name ++ "`"
  | .numberExpected text => "Invalid URL: Cannot parse `" ++ text ++ "` to a `u64`"

/-- What the refusal is filed as. -/
def kind : Refusal → String
  | .bodyTooLong => "axum_core::extract::rejection::LengthLimitError"
  | .undecodableParameter _ | .numberExpected _ =>
      "axum::extract::path::FailedToDeserializePathParams"

/-- The response to a request that is refused. -/
def response (refusal : Refusal) : Response :=
  .plain refusal.status refusal.message

/-- What is reported of a refusal. -/
def event (refusal : Refusal) : Log.Event :=
  .rejecting refusal.status refusal.message refusal.kind

end Refusal

end Shortlink.Gateway
