import Shortlink.Gateway.Handlers
import Shortlink.Text.Split

/-!
# Sites

A site says what is found under a path.  Paths are taken as they are written: they
are cut at their slashes and compared piece by piece, before anything is decoded.
-/

namespace Shortlink.Gateway

open Http (Request Response)

/-- The pieces of a path.  The first one is empty if the path starts with a slash. -/
def pieces (path : String) : List String :=
  (Text.split '/' path.toList).map String.ofList

/-- What a resource is asked to do. -/
inductive Verb
  | get
  | post
  deriving DecidableEq, Repr

namespace Verb

/-- Whether a method asks for this.  What can be got can be got without its body. -/
def isAskedBy (verb : Verb) (method : String) : Bool :=
  match verb with
  | .get => method = "GET" || method = "HEAD"
  | .post => method = "POST"

/-- The methods that ask for this, as a response lists them. -/
def methods : Verb → String
  | .get => "GET,HEAD"
  | .post => "POST"

end Verb

/-- What is found under a path. -/
structure Resource (σ : Type) where
  /-- What it can be asked to do. -/
  verb : Verb
  handle : σ → Request → Work σ

/-- What is found under the pieces of a path. -/
abbrev Site (σ : Type) := List String → Option (Resource σ)

/-- The site of the gateway. -/
def gatewaySite {σ : Type} [KeyStore σ] : Site σ
  | ["", "pong"] => some { verb := .get, handle := pong }
  | ["", "shorten"] => some { verb := .post, handle := shorten }
  | ["", "go", piece] =>
      if piece.isEmpty then none else some { verb := .get, handle := redirect piece }
  | _ => none

end Shortlink.Gateway
