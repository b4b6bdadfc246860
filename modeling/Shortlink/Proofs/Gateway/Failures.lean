import Shortlink.Proofs.Gateway.Deadlines
import Shortlink.Proofs.Gateway.Shorten

/-!
# What failures give away

A client that is told of a failure is told its status and nothing else.  Two requests that
have reached a handler and have failed with the same status have the same response, whatever
was sent with them, whatever was in the stores behind them, and whether their handlers failed
or panicked.
-/

namespace Shortlink.Gateway

open Http (Request Response)

/-! ## Failures -/

/-- What a client is told of a failure, by the status alone. -/
def publicMessage (status : Nat) : String :=
  if status = 404 then "key not found"
  else if status = 400 then "invalid request"
  else "internal server error"

/-- The response to a request that has failed, by the status alone. -/
def publicResponse (status : Nat) : Response :=
  (failureResponse status (publicMessage status)).withLength

/-- A failure shows nothing but its status. -/
theorem Failure.withLength_response (failure : Failure) :
    failure.response.withLength = publicResponse failure.status := by
  rw [failure.response_eq]
  cases failure <;> rfl

theorem status_publicResponse (status : Nat) : (publicResponse status).status = status :=
  Http.Response.status_withLength _

/-! ## Requests that reach a handler -/

/-- A request that reaches a handler which may fail: it is to shorten and its body is not too
long, or it goes by a segment that spells a key. -/
inductive ReachesHandler (request : Request) : Prop
  /-- It is to shorten. -/
  | shorten : IsShorten request → request.body.length ≤ maximumBodyLength → ReachesHandler request
  /-- It is to be redirected. -/
  | redirect {segment key : String} : request.method = "GET" → GoesBy request segment →
      SpellsKey segment key → ReachesHandler request

section Gateway

variable {σ : Type} [KeyStore σ] {timeout : Nat} {request : Request}

/-- What comes of a body that is not too long: a code, or a failure. -/
theorem recover_shorten (store : σ) (short : request.body.length ≤ maximumBodyLength) :
    let response := (shorten store request).ending.recover.1
    response.status = 200 ∨ ∃ failure : Failure, response = failure.response := by
  unfold shorten
  rw [if_neg (Nat.not_lt_of_le short)]
  split
  · exact .inr ⟨_, rfl⟩
  · rename_i url _
    cases answered : (KeyStore.shorten store url).answer with
    | ok code =>
        rw [shortenUrl_of_ok answered]
        exact .inl rfl
    | error exhausted =>
        rw [shortenUrl_of_error answered]
        exact .inr ⟨.internal, rfl⟩

/-- A request that reaches a handler succeeds or fails; it is neither refused nor given up. -/
theorem serve_of_reachesHandler (positive : 0 < timeout) (store : σ)
    (reaches : ReachesHandler request) :
    let response := (serve gatewaySite timeout store request).response
    response.status ∈ [200, 302] ∨
      ∃ failure : Failure, response = failure.response.withLength := by
  intro response
  cases reaches with
  | shorten isShorten short =>
      have served : response = (shorten store request).ending.recover.1.withLength :=
        (serve_shorten positive store isShorten.1 isShorten.2).1
      rcases recover_shorten store short with fine | ⟨failure, failed⟩
      · have accepted : response.status = 200 := by
          rw [served, Http.Response.status_withLength, fine]
        exact .inl (by simp [accepted])
      · exact .inr ⟨failure, by rw [served, failed]⟩
  | @redirect segment key get goes spells =>
      have served : response = (keyResponse (KeyStore.resolve store key).1).withLength := by
        have whole : ¬request.method = "HEAD" := by
          rw [get]
          decide
        have completed := response_of_spellsKey positive store (.inl get) goes spells
        exact completed.trans (if_neg whole)
      rcases keyResponse_cases (KeyStore.resolve store key).1 with
        ⟨url, -, -, redirection⟩ | ⟨failure, failed⟩
      · have found : response.status = 302 := by
          rw [served, redirection, Http.Response.status_withLength]
          rfl
        exact .inl (by simp [found])
      · exact .inr ⟨failure, by rw [served, failed]⟩

/-- If a request that reaches a handler is answered with an error, its status decides the
whole response. -/
theorem eq_publicResponse_of_error (positive : 0 < timeout) (store : σ)
    (reaches : ReachesHandler request) :
    let response := (serve gatewaySite timeout store request).response
    400 ≤ response.status →
      response.status ∈ [400, 404, 500] ∧ response = publicResponse response.status := by
  intro response error
  rcases serve_of_reachesHandler positive store reaches with fine | ⟨failure, failed⟩
  · have small : ∀ status ∈ [200, 302], ¬400 ≤ status := by decide
    exact absurd error (small _ fine)
  · have told : response = publicResponse failure.status :=
      failed.trans failure.withLength_response
    rw [told, status_publicResponse]
    exact ⟨failure.status_mem, rfl⟩

end Gateway

/-- A panic shows nothing, whatever it carries. -/
theorem response_of_panic {σ : Type} {site : Site σ} {timeout : Nat} {store : σ}
    {request : Request} {resource : Resource σ} {payload : Payload}
    (whole : request.method ≠ "HEAD") (handled : site.dispatch request = .handled resource)
    (quick : (resource.handle store request).delay < timeout)
    (panics : (resource.handle store request).ending = .panic payload) :
    (serve site timeout store request).response = publicResponse 500 := by
  rw [(serve_of_handled handled quick whole).1, panics]
  rfl

/-! ## The law of failures -/

/-- Two requests that have reached a handler and are answered with the same error have the
same response, whatever the stores are and whatever the requests say.  It is a function of the
status, of which there are three.  A panic with any payload, in any handler, has the response
that every other failure of the server has. -/
theorem response_eq_of_status_eq {σ τ : Type} [KeyStore σ] [KeyStore τ] (store : σ) (other : τ)
    {timeout otherTimeout : Nat} (positive : 0 < timeout) (otherPositive : 0 < otherTimeout)
    {request otherRequest : Request} (reaches : ReachesHandler request)
    (otherReaches : ReachesHandler otherRequest) :
    let response := (serve gatewaySite timeout store request).response
    let otherResponse := (serve gatewaySite otherTimeout other otherRequest).response
    (400 ≤ response.status → otherResponse.status = response.status →
        otherResponse = response) ∧
      (400 ≤ response.status → response.status ∈ [400, 404, 500] ∧
        response = publicResponse response.status) ∧
      ∀ {ρ : Type} (site : Site ρ) (limit : Nat) (state : ρ) (visit : Request)
          (resource : Resource ρ) (payload : Payload), visit.method ≠ "HEAD" →
        site.dispatch visit = .handled resource →
        (resource.handle state visit).delay < limit →
        (resource.handle state visit).ending = .panic payload →
          (serve site limit state visit).response = publicResponse 500 := by
  intro response otherResponse
  refine ⟨fun error same => ?_, eq_publicResponse_of_error positive store reaches, ?_⟩
  · obtain ⟨-, told⟩ := eq_publicResponse_of_error positive store reaches error
    obtain ⟨-, otherTold⟩ :=
      eq_publicResponse_of_error otherPositive other otherReaches (same ▸ error)
    calc otherResponse = publicResponse otherResponse.status := otherTold
      _ = publicResponse response.status := congrArg publicResponse same
      _ = response := told.symm
  · intro ρ site limit state visit resource payload whole handled quick panics
    exact response_of_panic whole handled quick panics

/-- A handler that panics at the end of the sequence, a URL that cannot be sent and a panic
that carries no text are all answered alike. -/
theorem response_eq_of_status_eq_of_panic :
    let full : CounterStore := { sequence := ⟨0xFFFFFFFFFFFFFFFF⟩ }
    let stored : MemoryStore := { urls := (∅ : Std.HashMap String String).insert "1" "\n" }
    let shortening := requestFor "a"
    let going : Request := { target := { path := "/go/1" } }
    let probing : Request := { target := { path := "/panic-any" } }
    let response := (serve gatewaySite 1 full shortening).response
    let otherResponse := (serve gatewaySite 2 stored going).response
    ReachesHandler shortening ∧ ReachesHandler going ∧ response.status = 500 ∧
      otherResponse.status = 500 ∧ otherResponse = response ∧ response = publicResponse 500 ∧
      (serve probeSite 1 stored probing).response = publicResponse 500 := by
  intro full stored shortening going probing response otherResponse
  have asks : AsksFor shortening "a" := asksFor_requestFor (by decide)
  have reaches : ReachesHandler shortening := .shorten asks.1 asks.2.1
  have goes : GoesBy going "1" := ⟨rfl, by decide, by decide⟩
  have spells : SpellsKey "1" "1" := Http.percentDecodeText?_eq_some_iff.mp (by decide +kernel)
  have otherReaches : ReachesHandler going := .redirect rfl goes spells
  have status : response.status = 500 := by
    have refused : (KeyStore.shorten full "a").answer = .error {} := by decide
    have served := (serve_shorten Nat.one_pos full asks.1.1 asks.1.2).1
    rw [show response = _ from served, shorten_of_read asks.2.1 asks.2.2,
      shortenUrl_of_error refused]
    rfl
  have otherStatus : otherResponse.status = 500 := by
    have found : (KeyStore.resolve stored "1").1 = .ok "\n" := by
      have put : stored.urls["1"]? = some "\n" := Std.HashMap.getElem?_insert_self
      change stored.resolve "1" = .ok "\n"
      rw [MemoryStore.resolve, put]
    have served := response_of_spellsKey Nat.two_pos stored (.inl rfl) goes spells
    have unsendable : ¬IsSendable "\n" := fun sendable =>
      absurd (isHeaderValue_iff.mpr sendable) (by decide)
    rw [show otherResponse = _ from served, status_complete, found,
      keyResponse_of_not_sendable unsendable]
    rfl
  have law := response_eq_of_status_eq full stored Nat.one_pos Nat.two_pos reaches otherReaches
  have cut : pieces probing.target.path = ["", "panic-any"] := by
    decide
  have handled : (probeSite : Site MemoryStore).dispatch probing = .handled
      { verb := .get, handle := fun store _ => Work.panic store .other [] } := by
    rw [Site.dispatch, cut]
    rfl
  have error : 400 ≤ response.status := by omega
  refine ⟨reaches, otherReaches, status, otherStatus, law.1 error (otherStatus.trans status.symm),
    status ▸ (law.2.1 error).2, ?_⟩
  exact law.2.2 probeSite 1 stored probing _ .other (by decide) handled Nat.one_pos rfl

end Shortlink.Gateway
