import Shortlink.Proofs.Gateway.Shorten

/-!
# Which bodies are accepted

A request to shorten is accepted exactly if its body asks for a URL, unless the URL is
new and there are no codes left.  Only the URL matters: two bodies that ask for the same
one have the same response and leave the same store.
-/

namespace Shortlink.Gateway

open Http (Request Response)
open ShortenRequest (Asks)

/-- A request to shorten is accepted exactly if its body asks for a URL that is known or can
be given a code.  The URL is told its code, and any other request for it has the same
response and leaves the same store.  At the end of the sequence a new URL is told of a
failure, and a body that asks for nothing is never accepted; neither does anything to the
store. -/
theorem status_eq_ok_iff_asks {timeout : Nat} (positive : 0 < timeout) (store : MemoryStore)
    {request : Request} (isShorten : IsShorten request)
    (short : request.body.length ≤ maximumBodyLength) :
    let reply := serve gatewaySite timeout store request
    (reply.response.status = 200 ↔ ∃ url, Asks request.body url ∧ ¬store.IsFullFor url) ∧
      (∀ url, Asks request.body url → ¬store.IsFullFor url →
        (∃ code, (store.shorten url).answer = .ok code ∧ Tells reply.response url code.text) ∧
          reply.store = (store.shorten url).store) ∧
      (∀ url, Asks request.body url → store.IsFullFor url →
        reply.response.status = 500 ∧
          reply.response.body = "\x7b\"error\":\"internal server error\"\x7d" ∧
          reply.store = store) ∧
      ((¬∃ url, Asks request.body url) →
        reply.response.status = 400 ∧
          reply.response.body = "\x7b\"error\":\"invalid request\"\x7d" ∧
          reply.store = store) ∧
      ∀ url, Asks request.body url → ∀ other, IsShorten other →
        other.body.length ≤ maximumBodyLength → Asks other.body url →
        (serve gatewaySite timeout store other).response = reply.response ∧
          (serve gatewaySite timeout store other).store = reply.store := by
  intro reply
  have asksFor {url : String} (asks : Asks request.body url) : AsksFor request url :=
    ⟨isShorten, short, ShortenRequest.read_eq_ok_iff_asks.mpr asks⟩
  refine ⟨⟨?_, ?_⟩, ?_, ?_, ?_, ?_⟩
  · intro fine
    rcases serve_isShorten timeout store isShorten with
      ⟨url, code, -, asks, room, -⟩ | ⟨failed, -⟩
    · exact ⟨url, ShortenRequest.read_eq_ok_iff_asks.mp asks.2.2, room⟩
    · exact absurd (fine ▸ failed) (by decide)
  · rintro ⟨url, asks, room⟩
    obtain ⟨code, answered, -⟩ := serve_of_room positive (asksFor asks) room
    exact (tells_of_asksFor positive (asksFor asks) answered).1
  · intro url asks room
    obtain ⟨code, answered, -, left⟩ := serve_of_room positive (asksFor asks) room
    exact ⟨⟨code, answered, tells_of_asksFor positive (asksFor asks) answered⟩, left⟩
  · intro url asks full
    obtain ⟨response, kept⟩ := serve_of_full positive (asksFor asks) full
    rw [response]
    exact ⟨Http.Response.status_withLength _,
      (Http.Response.body_withLength _).trans Failure.internal.body_response, kept⟩
  · exact serve_of_unreadable positive store isShorten short
  · intro url asks other otherIsShorten otherShort otherAsks
    obtain ⟨response, left⟩ := serve_of_asksFor positive store (asksFor asks)
    obtain ⟨otherResponse, otherLeft⟩ := serve_of_asksFor positive store
      ⟨otherIsShorten, otherShort, ShortenRequest.read_eq_ok_iff_asks.mpr otherAsks⟩
    exact ⟨otherResponse.trans response.symm, otherLeft.trans left.symm⟩

/-- On a new store, a list of one URL is accepted and an empty body is not. -/
theorem status_eq_ok_iff_asks_on_empty :
    let accepted := requestFor "a"
    let silent := requestWith []
    let reply := serve gatewaySite 1 MemoryStore.empty accepted
    let refusal := serve gatewaySite 1 MemoryStore.empty silent
    (0 < 1 ∧ IsShorten accepted ∧ accepted.body.length ≤ maximumBodyLength ∧
      Asks accepted.body "a" ∧ ¬MemoryStore.empty.IsFullFor "a" ∧
      reply.response.status = 200 ∧
      reply.store = (MemoryStore.empty.shorten "a").store) ∧
    (IsShorten silent ∧ silent.body.length ≤ maximumBodyLength ∧
      (¬∃ url, Asks silent.body url) ∧ refusal.response.status = 400) := by
  intro accepted silent reply refusal
  have asksFor : AsksFor accepted "a" := asksFor_requestFor (by decide)
  have asks : Asks accepted.body "a" := ShortenRequest.read_eq_ok_iff_asks.mp asksFor.2.2
  have room : ¬MemoryStore.empty.IsFullFor "a" := fun full => absurd full.2 (by decide)
  have other : ¬∃ url, Asks silent.body url := by
    rintro ⟨url, found⟩
    cases ShortenRequest.read_eq_ok_iff_asks.mpr found
  obtain ⟨isOk, isTold, -⟩ :=
    status_eq_ok_iff_asks Nat.one_pos MemoryStore.empty asksFor.1 asksFor.2.1
  have isShorten : IsShorten silent := isShorten_requestWith []
  have short : silent.body.length ≤ maximumBodyLength := Nat.zero_le _
  obtain ⟨-, -, -, isRefused, -⟩ :=
    status_eq_ok_iff_asks Nat.one_pos MemoryStore.empty isShorten short
  exact ⟨⟨Nat.one_pos, asksFor.1, asksFor.2.1, asks, room, isOk.mpr ⟨"a", asks, room⟩,
    (isTold "a" asks room).2⟩, isShorten, short, other, (isRefused other).1⟩

/-- Asking for a URL is not enough: there is a store with no codes left for a new one. -/
theorem not_forall_status_eq_ok_iff :
    ¬∀ (timeout : Nat) (calls : List Call) (request : Request),
      0 < timeout → IsShorten request → request.body.length ≤ maximumBodyLength →
        ((serve gatewaySite timeout (Call.runAll MemoryStore.empty calls).store
            request).response.status = 200 ↔
          ∃ url, Asks request.body url) := by
  intro always
  have member : 'a' ∈ "a".toList := by decide
  obtain ⟨calls, full⟩ := MemoryStore.exists_isFullFor member (by decide)
  have asks : AsksFor (requestFor "a") "a" := asksFor_requestFor (by decide)
  have accepted := (always 1 calls (requestFor "a") Nat.one_pos asks.1 asks.2.1).mpr
    ⟨"a", ShortenRequest.read_eq_ok_iff_asks.mp asks.2.2⟩
  obtain ⟨failed, -⟩ := serve_of_full Nat.one_pos asks full
  rw [failed, Http.Response.status_withLength] at accepted
  exact absurd accepted (by decide)

end Shortlink.Gateway
