import Shortlink.Gateway.ShortenRequest
import Shortlink.Gateway.Work
import Shortlink.Http.PercentEncoding
import Shortlink.ShortCode.Json

/-!
# Handlers

The three things that the gateway does: it tells that it is alive, it shortens a
URL, and it redirects from a key to the URL under it.
-/

namespace Shortlink.Gateway

open Http (Request Response)

variable {σ : Type}

/-- The answer to a sign of life. -/
def pongResponse : Response :=
  .json 200 (Json.object [("message", Json.string "pong")])

/-- Tells that the gateway is alive. -/
def pong (store : σ) (_request : Request) : Work σ :=
  .answer store pongResponse []

/-- The most bytes that the body of a request may have. -/
def maximumBodyLength : Nat := 2097152

/-- The answer to a request to shorten a URL. -/
def shortenResponse (url : String) (code : ShortCode) : Response :=
  .json 200 (Json.object [("url", Json.string url), ("key", code.toJson)])

/-- Shortens the URL that has been read from a body. -/
def shortenUrl [KeyStore σ] (store : σ) (url : String) : Work σ :=
  let outcome := KeyStore.shorten store url
  match outcome.answer with
  | .ok code =>
      .answer outcome.store (shortenResponse url code) (outcome.events ++ [.shortened url code])
  | .error exhausted => .panic outcome.store (.composed exhausted.message) outcome.events

/-- Shortens the URL in the body of a request. -/
def shorten [KeyStore σ] (store : σ) (request : Request) : Work σ :=
  if maximumBodyLength < request.body.length then .refuse store .bodyTooLong
  else match ShortenRequest.read request.body with
  | .error rejection =>
      let detail := ShortenRequest.rejectionMessage request.body rejection
      .fail store (.invalidRequest detail) [.unreadableRequest detail]
  | .ok url => shortenUrl store url

/-- The response that leads to a URL. -/
def redirectResponse (url : String) : Response :=
  { status := 302, headers := [("location", url)] }

/-- Redirects to the URL under a key. -/
def redirectKey [KeyStore σ] (store : σ) (key : String) : Work σ :=
  let (found, events) := KeyStore.resolve store key
  match found with
  | .error missing => .fail store (.ofKeyError missing) (events ++ [.keyNotFound key])
  | .ok url =>
      if Http.isHeaderValue url then
        .answer store (redirectResponse url) (events ++ [.redirecting key url])
      else
        .fail store (.invalidRedirect key)
          (events ++ [.unsendableUrl key Http.headerValueMessage])

/-- Redirects from the key that a piece of a path spells. -/
def redirect [KeyStore σ] (piece : String) (store : σ) (_request : Request) : Work σ :=
  match Http.percentDecodeText? piece with
  | none => .refuse store (.undecodableParameter "key")
  | some key => redirectKey store key

end Shortlink.Gateway
