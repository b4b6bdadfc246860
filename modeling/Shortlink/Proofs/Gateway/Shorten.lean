import Shortlink.Proofs.Gateway.RequestBody
import Shortlink.Proofs.Gateway.Run
import Shortlink.Proofs.Store.Exhaustion

/-!
# Requests to shorten

What becomes of a request to shorten, and of the store behind it: the body is too long,
asks for nothing, asks for a URL that gets a code, or asks for one that cannot get any.
Only a request that is told a code does anything to the store.
-/

namespace Shortlink.Gateway

open Http (Request Response)

variable {store : MemoryStore} {request : Request} {timeout : Nat} {url : String}

/-! ## Asking -/

/-- A request to shorten, with a body. -/
def requestWith (body : List UInt8) : Request :=
  { method := "POST", target := { path := "/shorten" }, body }

theorem isShorten_requestWith (body : List UInt8) : IsShorten (requestWith body) :=
  ⟨rfl, rfl⟩

theorem body_requestWith (body : List UInt8) : (requestWith body).body = body :=
  rfl

/-- A request for the key of a URL, by a list that holds it alone. -/
def requestFor (url : String) : Request :=
  requestWith (0x5B :: (Utf8.ofString (Json.string url) ++ [0x5D]))

theorem asksFor_requestFor (short : (requestFor url).body.length ≤ maximumBodyLength) :
    AsksFor (requestFor url) url :=
  ⟨isShorten_requestWith _, short, read_list_string url⟩

/-! ## In time -/

/-- A request to shorten has a body that is too long, or asks for something, or does not. -/
theorem isShorten_cases (isShorten : IsShorten request) :
    maximumBodyLength < request.body.length ∨ (∃ url, AsksFor request url) ∨
      request.body.length ≤ maximumBodyLength ∧
        ¬∃ url, ShortenRequest.Asks request.body url := by
  by_cases short : request.body.length ≤ maximumBodyLength
  · by_cases asks : ∃ url, ShortenRequest.Asks request.body url
    · obtain ⟨url, asks⟩ := asks
      exact .inr (.inl ⟨url, isShorten, short, ShortenRequest.read_eq_ok_iff_asks.mpr asks⟩)
    · exact .inr (.inr ⟨short, asks⟩)
  · exact .inl (Nat.lt_of_not_le short)

/-- A body that is too long is refused. -/
theorem serve_of_long (positive : 0 < timeout) (store : MemoryStore)
    (isShorten : IsShorten request) (long : maximumBodyLength < request.body.length) :
    (serve gatewaySite timeout store request).response.status = 413 ∧
      (serve gatewaySite timeout store request).store = store := by
  obtain ⟨response, left⟩ := serve_shorten positive store isShorten.1 isShorten.2
  rw [response, left, shorten, if_pos long]
  exact ⟨Http.Response.status_withLength _, rfl⟩

/-- A body that asks for nothing is not accepted. -/
theorem serve_of_unreadable (positive : 0 < timeout) (store : MemoryStore)
    (isShorten : IsShorten request) (short : request.body.length ≤ maximumBodyLength)
    (silent : ¬∃ url, ShortenRequest.Asks request.body url) :
    (serve gatewaySite timeout store request).response.status = 400 ∧
      (serve gatewaySite timeout store request).response.body =
        "\x7b\"error\":\"invalid request\"\x7d" ∧
      (serve gatewaySite timeout store request).store = store := by
  obtain ⟨response, left⟩ := serve_shorten positive store isShorten.1 isShorten.2
  rw [response, left, shorten, if_neg (Nat.not_lt_of_le short)]
  cases read : ShortenRequest.read request.body with
  | error rejection =>
      have body := (Failure.invalidRequest
        (ShortenRequest.rejectionMessage request.body rejection)).body_response
      exact ⟨Http.Response.status_withLength _, (Http.Response.body_withLength _).trans body, rfl⟩
  | ok url => exact absurd ⟨url, ShortenRequest.read_eq_ok_iff_asks.mp read⟩ silent

/-- Of a request for a URL, only the URL matters. -/
theorem serve_of_asksFor (positive : 0 < timeout) (store : MemoryStore)
    (asks : AsksFor request url) :
    (serve gatewaySite timeout store request).response =
        (shortenUrl store url).ending.recover.1.withLength ∧
      (serve gatewaySite timeout store request).store = (store.shorten url).store := by
  obtain ⟨⟨post, path⟩, short, read⟩ := asks
  obtain ⟨response, left⟩ := serve_shorten positive store post path
  rw [response, left, shorten_of_read short read]
  exact ⟨rfl, (shortenUrl_store store url).2⟩

/-- A URL for which there is a code is told it. -/
theorem serve_of_room (positive : 0 < timeout) (asks : AsksFor request url)
    (room : ¬store.IsFullFor url) :
    ∃ code, (store.shorten url).answer = .ok code ∧
      (serve gatewaySite timeout store request).response =
        (shortenResponse url code).withLength ∧
      (serve gatewaySite timeout store request).store = (store.shorten url).store := by
  obtain ⟨code, answered⟩ := MemoryStore.exists_answer_ok_iff.mpr room
  have found : (KeyStore.shorten store url).answer = .ok code := answered
  obtain ⟨response, left⟩ := serve_of_asksFor positive store asks
  refine ⟨code, answered, ?_, left⟩
  rw [response, shortenUrl_of_ok found]
  rfl

/-- At the end of the sequence, a new URL is told of a failure and nothing changes. -/
theorem serve_of_full (positive : 0 < timeout) (asks : AsksFor request url)
    (full : store.IsFullFor url) :
    (serve gatewaySite timeout store request).response =
        Failure.internal.response.withLength ∧
      (serve gatewaySite timeout store request).store = store := by
  obtain ⟨failure, refused⟩ := MemoryStore.exists_answer_error_iff.mpr full
  have found : (KeyStore.shorten store url).answer = .error failure := refused
  obtain ⟨response, left⟩ := serve_of_asksFor positive store asks
  refine ⟨?_, left.trans (MemoryStore.store_shorten_of_isFullFor full)⟩
  rw [response, shortenUrl_of_error found]
  rfl

/-! ## At any time -/

/-- Who gives up at once has done nothing. -/
theorem store_serve_zero {σ : Type} (site : Site σ) (store : σ) (request : Request) :
    (serve site 0 store request).store = store := by
  simp only [serve, Work.within, Nat.zero_le, if_true]

theorem status_serve_zero (store : MemoryStore) (isShorten : IsShorten request) :
    (serve gatewaySite 0 store request).response.status = 408 := by
  have whole : ¬request.method = "HEAD" := by
    rw [isShorten.1]
    decide
  simp only [serve, dispatch_shorten isShorten.1 isShorten.2, Dispatch.work, Work.within,
    Nat.zero_le, if_true, Ending.recover, Dispatch.complete, Dispatch.isCompleted, complete,
    if_neg whole]
  exact Http.Response.status_withLength _

/-- A request to shorten is told the code of the URL that it asks for, or it fails and
leaves the store alone. -/
theorem serve_isShorten (timeout : Nat) (store : MemoryStore) (isShorten : IsShorten request) :
    let reply := serve gatewaySite timeout store request
    (∃ (url : String) (code : ShortCode), 0 < timeout ∧ AsksFor request url ∧
        ¬store.IsFullFor url ∧ (store.shorten url).answer = .ok code ∧
        reply.response = (shortenResponse url code).withLength ∧
        reply.store = (store.shorten url).store) ∨
      reply.response.status ∈ [400, 408, 413, 500] ∧ reply.store = store := by
  intro reply
  rcases Nat.eq_zero_or_pos timeout with rfl | positive
  · have late : reply.response.status = 408 := status_serve_zero store isShorten
    exact .inr ⟨by simp [late], store_serve_zero gatewaySite store request⟩
  rcases isShorten_cases isShorten with long | ⟨url, asks⟩ | ⟨short, silent⟩
  · obtain ⟨refused, kept⟩ := serve_of_long positive store isShorten long
    exact .inr ⟨by simp [reply, refused], kept⟩
  · by_cases full : store.IsFullFor url
    · obtain ⟨failed, kept⟩ := serve_of_full positive asks full
      have status : reply.response.status = 500 :=
        (congrArg Response.status failed).trans (Http.Response.status_withLength _)
      exact .inr ⟨by simp [status], kept⟩
    · obtain ⟨code, answered, told, left⟩ := serve_of_room positive asks full
      exact .inl ⟨url, code, positive, asks, full, answered, told, left⟩
  · obtain ⟨refused, -, kept⟩ := serve_of_unreadable positive store isShorten short silent
    exact .inr ⟨by simp [reply, refused], kept⟩

/-- Any other request leaves the store alone. -/
theorem store_serve_of_not_isShorten {σ : Type} [KeyStore σ] (other : ¬IsShorten request)
    (timeout : Nat) (store : σ) : (serve gatewaySite timeout store request).store = store := by
  rcases work_cases store request with ⟨isShorten, -⟩ | ⟨-, kept⟩
  · exact absurd isShorten other
  · exact Work.store_within kept timeout

/-- A request does something to the store only if it is a request to shorten and it is told
the code of a URL.  What it does then is to shorten this URL: a known URL changes nothing,
and a new one is counted. -/
theorem serve_effect (timeout : Nat) (store : MemoryStore) (request : Request) :
    let reply := serve gatewaySite timeout store request
    (IsShorten request ∧ reply.response.status = 200 →
      ∃ (url : String) (code : ShortCode), AsksFor request url ∧
        Tells reply.response url code.text ∧ (store.shorten url).answer = .ok code ∧
        reply.store = (store.shorten url).store ∧
        (url ∈ store.codes → reply.store = store) ∧
        (url ∉ store.codes → reply.store.allocated.toNat = store.allocated.toNat + 1)) ∧
      (¬(IsShorten request ∧ reply.response.status = 200) → reply.store = store) := by
  intro reply
  by_cases isShorten : IsShorten request
  · rcases serve_isShorten timeout store isShorten with
      ⟨url, code, positive, asks, room, answered, -, left⟩ | ⟨failed, kept⟩
    · have tells : Tells reply.response url code.text := tells_of_asksFor positive asks answered
      refine ⟨fun _ => ⟨url, code, asks, tells, answered, left, ?_, ?_⟩, ?_⟩
      · exact fun known => left.trans (MemoryStore.store_shorten_of_mem known)
      · intro new
        have counted := MemoryStore.toNat_allocated_of_room new fun atEnd => room ⟨new, atEnd⟩
        exact (congrArg (fun after => after.allocated.toNat) left).trans counted
      · exact fun other => absurd ⟨isShorten, tells.1⟩ other
    · refine ⟨fun told => ?_, fun _ => kept⟩
      exact absurd (told.2 ▸ failed) (by decide)
  · refine ⟨fun told => absurd told.1 isShorten, fun _ => ?_⟩
    exact store_serve_of_not_isShorten isShorten timeout store

/-- On a new store, a URL that is asked for is counted, and one that is asked for too late is
not. -/
theorem serve_effect_on_empty :
    let request := requestFor "a"
    let reply := serve gatewaySite 1 MemoryStore.empty request
    let late := serve gatewaySite 0 MemoryStore.empty request
    (IsShorten request ∧ reply.response.status = 200) ∧ reply.store.allocated.toNat = 1 ∧
      ¬(IsShorten request ∧ late.response.status = 200) ∧ late.store = MemoryStore.empty := by
  intro request reply late
  have asks : AsksFor request "a" := asksFor_requestFor (by decide)
  have room : ¬MemoryStore.empty.IsFullFor "a" := fun full => absurd full.2 (by decide)
  obtain ⟨code, answered, -⟩ := serve_of_room Nat.one_pos asks room
  have told : IsShorten request ∧ reply.response.status = 200 :=
    ⟨asks.1, (tells_of_asksFor Nat.one_pos asks answered).1⟩
  obtain ⟨url, _, -, -, -, -, -, counted⟩ :=
    (serve_effect 1 MemoryStore.empty request).1 told
  have silent : ¬(IsShorten request ∧ late.response.status = 200) := fun ⟨_, fine⟩ =>
    absurd ((status_serve_zero MemoryStore.empty asks.1).symm.trans fine) (by decide)
  exact ⟨told, counted Std.HashMap.not_mem_empty, silent,
    (serve_effect 0 MemoryStore.empty request).2 silent⟩

end Shortlink.Gateway
