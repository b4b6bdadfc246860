import Shortlink.Gateway.Service
import Shortlink.Proofs.Http.Path

/-!
# Serving one request

What the gateway makes of one request: where the request is sent, that its handler
takes no time, and what its response is completed with.
-/

namespace Shortlink

namespace Http.Response

@[simp]
theorem status_withHeader (response : Response) (name value : String) :
    (response.withHeader name value).status = response.status := by
  rw [withHeader]
  cases response.header? name <;> rfl

@[simp]
theorem body_withHeader (response : Response) (name value : String) :
    (response.withHeader name value).body = response.body := by
  rw [withHeader]
  cases response.header? name <;> rfl

theorem header?_withHeader_of_ne (response : Response) {name other : String} (value : String)
    (different : name ≠ other) :
    (response.withHeader name value).header? other = response.header? other := by
  rw [withHeader]
  cases response.header? name with
  | some _ => rfl
  | none =>
      have absent :
          List.find? (fun header : Header => header.1 = other) [(name, value)] = none := by
        simp [different]
      rw [header?, header?, List.find?_append, absent, Option.or_none]

@[simp]
theorem status_withLength (response : Response) : response.withLength.status = response.status :=
  status_withHeader ..

@[simp]
theorem body_withLength (response : Response) : response.withLength.body = response.body :=
  body_withHeader ..

theorem header?_withLength_of_ne (response : Response) {name : String}
    (different : contentLength ≠ name) : response.withLength.header? name = response.header? name :=
  header?_withHeader_of_ne response _ different

end Http.Response

namespace Gateway

open Http (Request Response)

/-! ## Failures -/

/-- A response that tells of a failure, to the letter. -/
def failureResponse (status : Nat) (message : String) : Response :=
  .json status ("\x7b\"error\":\"" ++ message ++ "\"\x7d")

theorem Failure.publicMessage_mem (failure : Failure) :
    failure.publicMessage ∈ ["key not found", "invalid request", "internal server error"] := by
  cases failure <;> simp [publicMessage]

/-- No character of what a client is told has to be escaped. -/
theorem Failure.response_eq (failure : Failure) :
    failure.response = failureResponse failure.status failure.publicMessage := by
  have written : ∀ message ∈ ["key not found", "invalid request", "internal server error"],
      Json.object [("error", Json.string message)] =
        "\x7b\"error\":\"" ++ message ++ "\"\x7d" := by
    decide +kernel
  exact congrArg (Response.json failure.status) (written _ failure.publicMessage_mem)

/-- The bodies of the responses to failures, to the letter. -/
theorem Failure.body_response (failure : Failure) :
    failure.response.body =
      if failure.status = 404 then "\x7b\"error\":\"key not found\"\x7d"
      else if failure.status = 400 then "\x7b\"error\":\"invalid request\"\x7d"
      else "\x7b\"error\":\"internal server error\"\x7d" := by
  rw [failure.response_eq]
  cases failure <;> rfl

/-! ## Work and its time -/

variable {σ : Type} {store : σ} {request : Request} {timeout : Nat}

theorem Work.within_of_lt {work : Work σ} (quick : work.delay < timeout) (store : σ) :
    work.within timeout store = work := by
  rw [Work.within, if_neg (Nat.not_le_of_lt quick)]

theorem Work.within_of_le {work : Work σ} (late : timeout ≤ work.delay) (store : σ) :
    work.within timeout store =
      { delay := timeout, ending := .answer timedOut, store, events := [] } := by
  rw [Work.within, if_pos late]

/-- Work that leaves the store alone does so whether it is given up or not. -/
theorem Work.store_within {work : Work σ} (kept : work.store = store) (timeout : Nat) :
    (work.within timeout store).store = store := by
  rw [within]
  split
  · rfl
  · exact kept

/-- A handler that takes less than the timeout has its answer, completed, as the response. -/
theorem serve_of_handled {site : Site σ} {resource : Resource σ}
    (handled : site.dispatch request = .handled resource)
    (quick : (resource.handle store request).delay < timeout) (whole : request.method ≠ "HEAD") :
    (serve site timeout store request).response =
        (resource.handle store request).ending.recover.1.withLength ∧
      (serve site timeout store request).store = (resource.handle store request).store := by
  have within := Work.within_of_lt quick store
  constructor
  · simp only [serve, handled, Dispatch.work, within, Dispatch.complete, Dispatch.isCompleted,
      if_true, complete, if_neg whole]
  · simp only [serve, handled, Dispatch.work, within]

/-! ## Completed responses -/

@[simp]
theorem status_complete (request : Request) (response : Response) :
    (complete request response).status = response.status := by
  unfold complete
  dsimp only
  split
  · exact Http.Response.status_withLength response
  · exact Http.Response.status_withLength response

/-- What is sent of a body: nothing, if only the head was asked for. -/
def sentBody (request : Request) (body : String) : String :=
  if request.method = "HEAD" then "" else body

theorem body_complete (request : Request) (response : Response) :
    (complete request response).body = sentBody request response.body := by
  unfold complete sentBody
  dsimp only
  split
  · rfl
  · exact Http.Response.body_withLength response

@[simp]
theorem status_dispatch_complete (dispatch : Dispatch σ) (request : Request)
    (response : Response) : (dispatch.complete request response).status = response.status := by
  have completed {allowing : Response} (same : allowing.status = response.status) :
      (if dispatch.isCompleted request then Gateway.complete request allowing
        else allowing).status = response.status := by
    split
    · rw [status_complete, same]
    · exact same
  cases dispatch with
  | refused resource => exact completed (Http.Response.status_withHeader ..)
  | handled _ => exact completed rfl
  | unknown => exact completed rfl

/-! ## The site of the gateway -/

section Site

variable [KeyStore σ]

/-- What there is under the pieces of a path. -/
theorem gatewaySite_eq_some {pieces : List String} {resource : Resource σ}
    (found : gatewaySite pieces = some resource) :
    resource = { verb := .get, handle := pong } ∨
      pieces = ["", "shorten"] ∧ resource = { verb := .post, handle := shorten } ∨
        ∃ piece, pieces = ["", "go", piece] ∧
          resource = { verb := .get, handle := redirect piece } := by
  unfold gatewaySite at found
  split at found
  · exact .inl (Option.some.inj found).symm
  · exact .inr (.inl ⟨rfl, (Option.some.inj found).symm⟩)
  · rename_i piece
    split at found
    · contradiction
    · exact .inr (.inr ⟨piece, rfl, (Option.some.inj found).symm⟩)
  · contradiction

theorem dispatch_shorten (post : request.method = "POST")
    (path : request.target.path = "/shorten") :
    (gatewaySite : Site σ).dispatch request = .handled { verb := .post, handle := shorten } := by
  rw [Site.dispatch, path, pieces_shorten]
  simp [gatewaySite, Verb.isAskedBy, post]

/-- A path of one segment after `/go/` is where the key that the segment spells is. -/
theorem dispatch_segment {segment : String} (shown : Verb.get.isAskedBy request.method = true)
    (path : request.target.path = "/go/" ++ segment) (some : segment ≠ "")
    (absent : '/' ∉ segment.toList) :
    (gatewaySite : Site σ).dispatch request =
      .handled { verb := .get, handle := redirect segment } := by
  have filled : segment.isEmpty = false := by
    rw [Bool.eq_false_iff]
    exact fun empty => some (String.isEmpty_iff.mp empty)
  rw [Site.dispatch, pieces_eq_go_iff.mpr ⟨path, absent⟩]
  simp [gatewaySite, shown, filled]

theorem dispatch_go {code : ShortCode} (get : request.method = "GET")
    (path : request.target.path = "/go/" ++ code.text) :
    (gatewaySite : Site σ).dispatch request =
      .handled { verb := .get, handle := redirect code.text } :=
  dispatch_segment (by simp [Verb.isAskedBy, get]) path code.text_ne_empty
    (code.not_mem_toList rfl rfl)

/-! ## Handlers -/

theorem shortenUrl_of_ok {url : String} {code : ShortCode}
    (answered : (KeyStore.shorten store url).answer = .ok code) :
    shortenUrl store url =
      .answer (KeyStore.shorten store url).store (shortenResponse url code)
        ((KeyStore.shorten store url).events ++ [.shortened url code]) := by
  simp only [shortenUrl, answered]

theorem shortenUrl_of_error {url : String} {failure : Exhausted}
    (answered : (KeyStore.shorten store url).answer = .error failure) :
    shortenUrl store url =
      .panic (KeyStore.shorten store url).store (.composed failure.message)
        (KeyStore.shorten store url).events := by
  simp only [shortenUrl, answered]

/-- Shortening takes no time, and leaves what it leaves of the store. -/
theorem shortenUrl_store (store : σ) (url : String) :
    (shortenUrl store url).delay = 0 ∧
      (shortenUrl store url).store = (KeyStore.shorten store url).store := by
  cases answered : (KeyStore.shorten store url).answer with
  | ok code =>
      rw [shortenUrl_of_ok answered]
      exact ⟨rfl, rfl⟩
  | error failure =>
      rw [shortenUrl_of_error answered]
      exact ⟨rfl, rfl⟩

/-- A request to shorten is for the URL that its body is read as, or it is turned down. -/
theorem shorten_cases (store : σ) (request : Request) :
    (∃ url, request.body.length ≤ maximumBodyLength ∧
        ShortenRequest.read request.body = .ok url ∧
        shorten store request = shortenUrl store url) ∨
      ∃ response events, 400 ≤ response.status ∧
        shorten store request = .answer store response events := by
  unfold shorten
  split
  · exact .inr ⟨_, _, by decide, rfl⟩
  · rename_i notLong
    split
    · exact .inr ⟨_, _, Nat.le_refl 400, rfl⟩
    · rename_i url read
      exact .inl ⟨url, Nat.le_of_not_lt notLong, read, rfl⟩

theorem shorten_of_read {url : String} (short : request.body.length ≤ maximumBodyLength)
    (read : ShortenRequest.read request.body = .ok url) :
    shorten store request = shortenUrl store url := by
  rw [shorten, if_neg (Nat.not_lt_of_le short), read]

theorem delay_shorten (store : σ) (request : Request) : (shorten store request).delay = 0 := by
  rcases shorten_cases store request with ⟨url, -, -, work⟩ | ⟨response, events, -, work⟩
  · rw [work, (shortenUrl_store store url).1]
  · rw [work]
    rfl

/-- Redirecting takes no time and leaves the store alone. -/
theorem redirect_store (piece : String) (store : σ) (request : Request) :
    (redirect piece store request).delay = 0 ∧ (redirect piece store request).store = store := by
  unfold redirect
  split
  · exact ⟨rfl, rfl⟩
  · rename_i key _
    unfold redirectKey
    dsimp only
    split
    · exact ⟨rfl, rfl⟩
    · split <;> exact ⟨rfl, rfl⟩

/-- The work on a request is that of shortening, if the request is for that, or it takes no
time and leaves the store alone. -/
theorem work_cases (store : σ) (request : Request) :
    (request.method = "POST" ∧ request.target.path = "/shorten") ∧
        (gatewaySite.dispatch request).work store request = shorten store request ∨
      ((gatewaySite.dispatch request).work store request).delay = 0 ∧
        ((gatewaySite.dispatch request).work store request).store = store := by
  unfold Site.dispatch
  split
  · exact .inr ⟨rfl, rfl⟩
  · rename_i resource found
    split
    · rename_i asked
      rcases gatewaySite_eq_some found with rfl | ⟨cut, rfl⟩ | ⟨piece, -, rfl⟩
      · exact .inr ⟨rfl, rfl⟩
      · exact .inl ⟨⟨of_decide_eq_true asked, path_eq_shorten cut⟩, rfl⟩
      · exact .inr (redirect_store piece store request)
    · exact .inr ⟨rfl, rfl⟩

theorem delay_work (store : σ) (request : Request) :
    ((gatewaySite.dispatch request).work store request).delay = 0 := by
  rcases work_cases store request with ⟨-, work⟩ | ⟨instant, -⟩
  · rw [work, delay_shorten]
  · exact instant

/-- The response to a request is what comes of the work on it, completed. -/
theorem response_serve (positive : 0 < timeout) (store : σ) (request : Request) :
    (serve gatewaySite timeout store request).response =
      ((gatewaySite : Site σ).dispatch request).complete request
        ((gatewaySite.dispatch request).work store request).ending.recover.1 := by
  simp only [serve]
  rw [Work.within_of_lt (by rwa [delay_work])]

/-- No request does more to the store than shorten one URL. -/
theorem store_serve (positive : 0 < timeout) (store : σ) (request : Request) :
    (serve gatewaySite timeout store request).store = store ∨
      ∃ url, (serve gatewaySite timeout store request).store =
        (KeyStore.shorten store url).store := by
  simp only [serve]
  rcases work_cases store request with ⟨-, work⟩ | ⟨instant, kept⟩
  · have quick : (shorten store request).delay < timeout := by
      rwa [delay_shorten]
    rw [work, Work.within_of_lt quick]
    rcases shorten_cases store request with ⟨url, -, -, work⟩ | ⟨response, events, -, work⟩
    · exact .inr ⟨url, by rw [work, (shortenUrl_store store url).2]⟩
    · exact .inl (by rw [work]; rfl)
  · rw [Work.within_of_lt (by rwa [instant])]
    exact .inl kept

/-! ## Requests to shorten and to be redirected -/

theorem serve_shorten (positive : 0 < timeout) (store : σ) (post : request.method = "POST")
    (path : request.target.path = "/shorten") :
    (serve gatewaySite timeout store request).response =
        (shorten store request).ending.recover.1.withLength ∧
      (serve gatewaySite timeout store request).store = (shorten store request).store := by
  refine serve_of_handled (dispatch_shorten post path) ?_ (by rw [post]; decide)
  rwa [delay_shorten]

theorem serve_go (positive : 0 < timeout) (store : σ) {code : ShortCode}
    (get : request.method = "GET") (path : request.target.path = "/go/" ++ code.text) :
    (serve gatewaySite timeout store request).response =
      (redirectKey store code.text).ending.recover.1.withLength := by
  have quick : (redirect code.text store request).delay < timeout := by
    rwa [(redirect_store ..).1]
  have served := (serve_of_handled (dispatch_go get path) quick (by rw [get]; decide)).1
  rw [served]
  dsimp only
  unfold redirect
  rw [Http.percentDecodeText?_code]

end Site

end Gateway

end Shortlink
