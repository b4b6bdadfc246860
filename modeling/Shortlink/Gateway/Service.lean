import Shortlink.Gateway.Site

/-!
# The service

Every request passes three layers on its way to a handler.  The outermost one
reports the request and its response, the next one turns a panic into a failure,
and the innermost one gives up on a handler that takes too long.
-/

namespace Shortlink.Gateway

open Http (Request Response)

variable {σ : Type}

/-- The response to a request that has taken too long. -/
def timedOut : Response := { status := 408 }

/-- The work that remains of some work when it is given up after `timeout`
milliseconds: nothing, since what a handler does comes after its delay. -/
def Work.within (work : Work σ) (timeout : Nat) (store : σ) : Work σ :=
  if timeout ≤ work.delay then
    { delay := timeout, ending := .answer timedOut, store, events := [] }
  else work

/-- The response to work, and the event of recovering from its panic. -/
def Ending.recover : Ending → Response × List Log.Event
  | .answer response => (response, [])
  | .panic payload => (Failure.internal.response, [.panicRecovered payload.detail])

/-- What a site does with a request. -/
inductive Dispatch (σ : Type)
  | handled (resource : Resource σ)
  /-- There is a resource that cannot be asked that. -/
  | refused (resource : Resource σ)
  /-- There is nothing under the path. -/
  | unknown

/-- Where a site sends a request. -/
def Site.dispatch (site : Site σ) (request : Request) : Dispatch σ :=
  match site (pieces request.target.path) with
  | none => .unknown
  | some resource =>
      if resource.verb.isAskedBy request.method then .handled resource else .refused resource

/-- The work on a request. -/
def Dispatch.work (dispatch : Dispatch σ) (store : σ) (request : Request) : Work σ :=
  match dispatch with
  | .handled resource => resource.handle store request
  | .refused _ => .answer store { status := 405 } []
  | .unknown => .answer store { status := 404 } []

/-- Completes a response: the methods that could have been used, the length of the
body, and no body for a request that does not want one. -/
def complete (request : Request) (response : Response) : Response :=
  let response := response.withLength
  if request.method = "HEAD" then response.withoutBody else response

/-- Whether a response is completed at all.  It is not where nothing was found, unless
the path is no path at all. -/
def Dispatch.isCompleted (dispatch : Dispatch σ) (request : Request) : Bool :=
  match dispatch with
  | .handled _ | .refused _ => true
  | .unknown => request.target.path.toList.head? ≠ some '/'

/-- Completes a response in the way that its request was dispatched. -/
def Dispatch.complete (dispatch : Dispatch σ) (request : Request) (response : Response) :
    Response :=
  let response := match dispatch with
    | .refused resource => response.withHeader "allow" resource.verb.methods
    | .handled _ | .unknown => response
  if dispatch.isCompleted request then Gateway.complete request response else response

/-- How a failure of the server is classified. -/
def classification (status : Nat) : String :=
  "Status code: " ++ toString status ++ " " ++ Http.reason status

/-- What is reported of a response. -/
def responseEvents (response : Response) : List Log.Event :=
  [.requestFinished response.status] ++
    if Http.isServerError response.status then
      [.requestFailed (classification response.status)]
    else []

/-- A request, as its events refer to it. -/
def spanOf (request : Request) : Log.Span :=
  { method := request.method, uri := request.target.text }

/-- What comes of a request. -/
structure Reply (σ : Type) where
  response : Response
  /-- The store afterwards. -/
  store : σ
  /-- What is reported, in order. -/
  entries : List Log.Entry
  /-- What is reported in addition if the body is read until there is nothing left.  A
  body that has been left out cannot be read. -/
  entriesAtEnd : List Log.Entry

/-- Serves a request on a site, with a timeout in milliseconds. -/
def serve (site : Site σ) (timeout : Nat) (store : σ) (request : Request) : Reply σ :=
  let dispatch := site.dispatch request
  let work := (dispatch.work store request).within timeout store
  let (recovered, panicEvents) := work.ending.recover
  let response := dispatch.complete request recovered
  let leftOut := request.method = "HEAD" && dispatch.isCompleted request
  { response
    store := work.store
    entries := Log.during (spanOf request)
      ([.requestStarted] ++ work.events ++ panicEvents ++ responseEvents response)
    entriesAtEnd := if leftOut then [] else Log.during (spanOf request) [.bodySent] }

end Shortlink.Gateway
