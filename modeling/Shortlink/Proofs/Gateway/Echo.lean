import Shortlink.Proofs.Gateway.Shorten
import Shortlink.Proofs.Json.Objects

/-!
# Sending back what was told

The document that tells a URL its key asks for this URL itself: its other member does not
matter.  So whoever sends it back is told the same again, now or after any requests of
others, and the store stays as it is.
-/

namespace Shortlink.Gateway

open Http (Request Response)
open Json (IsObjectOf)
open ShortenRequest (Asks)

/-! ## Documents that ask for a URL -/

theorem isOther_of_spells {member : Json.Member} {name text : String}
    (spells : Json.Spells member.name name) (quotes : Json.Quotes member.element.value text)
    (other : name ≠ ShortenRequest.urlName) : ShortenRequest.IsOther member :=
  ⟨name, other, spells, Json.isValue_of_quotes quotes⟩

/-- An object of a URL and another string asks for the URL. -/
theorem asks_of_isObjectOf {body : List UInt8} {url name text : String}
    (isObject : IsObjectOf body [("url", url), (name, text)]) (other : name ≠ "url") :
    Asks body url := by
  obtain ⟨before, after, members, fields, rfl⟩ := isObject
  cases fields with
  | cons spells quotes fields =>
      cases fields with
      | cons spellsOther quotesOther fields =>
          cases fields
          have noneBefore : ∀ member ∈ [], ShortenRequest.IsOther member :=
            fun _ member => absurd member List.not_mem_nil
          have oneAfter := isOther_of_spells spellsOther quotesOther other
          exact .object before after noneBefore ⟨spells, quotes⟩
            (List.forall_mem_singleton.mpr oneAfter)

/-- What tells a URL its key is an object of these two. -/
theorem isObjectOf_assignment (url key : String) :
    IsObjectOf (Utf8.ofString (assignment url key)) [("url", url), ("key", key)] :=
  Json.isObjectOf_object [("url", url), ("key", key)]

/-! ## Requests in between -/

/-- The store after requests that are served one after the other. -/
def storeAfter {σ : Type} [KeyStore σ] (timeout : Nat) (store : σ) (requests : List Request) : σ :=
  requests.foldl (fun store request => (serve gatewaySite timeout store request).store) store

theorem storeAfter_grows {timeout : Nat} (positive : 0 < timeout) {store : MemoryStore}
    {ledger : Ledger} (records : store.Records ledger) (requests : List Request) :
    ∃ longer : Ledger, ledger <+: longer ∧ (storeAfter timeout store requests).Records longer := by
  induction requests generalizing store ledger with
  | nil => exact ⟨ledger, List.prefix_refl ledger, records⟩
  | cons request rest ih =>
      obtain ⟨middle, grown, kept, -⟩ := serve_grows positive records request
      obtain ⟨longer, furtherGrown, furtherKept⟩ := ih kept
      exact ⟨longer, grown.trans furtherGrown, furtherKept⟩

/-! ## Echoes -/

section Echo

variable {timeout : Nat} {store : MemoryStore} {ledger : Ledger} {request : Request}

/-- A request that is told a code leaves a ledger that has the code. -/
theorem exists_ledger_of_ok (records : store.Records ledger) (isShorten : IsShorten request)
    (fine : (serve gatewaySite timeout store request).response.status = 200) :
    ∃ (url : String) (code : ShortCode) (longer : Ledger), AsksFor request url ∧
      (serve gatewaySite timeout store request).response =
        (shortenResponse url code).withLength ∧
      (serve gatewaySite timeout store request).store.Records longer ∧
      longer.Assigns url code.text := by
  rcases serve_isShorten timeout store isShorten with
    ⟨url, code, -, asks, -, answered, told, left⟩ | ⟨failed, -⟩
  · obtain ⟨longer, -, kept, assigns⟩ := records.shorten url
    exact ⟨url, code, longer, asks, told, left ▸ kept, assigns code answered⟩
  · exact absurd (fine ▸ failed) (by decide)

/-- A URL that has a code is told it again when the document that tells it is sent. -/
theorem serve_assignment (positive : 0 < timeout) (records : store.Records ledger) {url : String}
    {code : ShortCode} (assigned : ledger.Assigns url code.text) (isShorten : IsShorten request)
    (short : request.body.length ≤ maximumBodyLength)
    (sent : request.body = Utf8.ofString (assignment url code.text)) :
    (serve gatewaySite timeout store request).response =
        (shortenResponse url code).withLength ∧
      (serve gatewaySite timeout store request).store = store := by
  have asks : Asks request.body url := by
    rw [sent]
    exact asks_of_isObjectOf (isObjectOf_assignment url code.text) (by decide)
  have known := MemoryStore.shorten_of_known ((records.codes_eq_some_iff url code).mpr assigned)
  have answered : (KeyStore.shorten store url).answer = .ok code := congrArg Outcome.answer known
  obtain ⟨response, left⟩ := serve_of_asksFor positive store
    ⟨isShorten, short, ShortenRequest.read_eq_ok_iff_asks.mpr asks⟩
  constructor
  · rw [response, shortenUrl_of_ok answered]
    rfl
  · rw [left, known]

end Echo

/-- Whoever sends back what a URL has been told is told the same, and nothing changes, on
every store that calls have led to and after any requests in between.  What has been told is
an object of exactly two members, the URL that was asked for and a key that leads to it. -/
theorem serve_response_again {timeout : Nat} (positive : 0 < timeout) (calls : List Call)
    {request again : Request} (between : List Request) {reply : Reply MemoryStore}
    (served : serve gatewaySite timeout (Call.runAll MemoryStore.empty calls).store request = reply)
    (isShorten : IsShorten request) (fine : reply.response.status = 200)
    (short : (Utf8.ofString reply.response.body).length ≤ maximumBodyLength)
    (isShortenAgain : IsShorten again)
    (sentBack : again.body = Utf8.ofString reply.response.body) :
    let later := storeAfter timeout reply.store between
    let echo := serve gatewaySite timeout later again
    echo.response = reply.response ∧ echo.store = later ∧
      ∃ (url : String) (code : ShortCode), Asks request.body url ∧
        IsObjectOf (Utf8.ofString reply.response.body) [("url", url), ("key", code.text)] ∧
        reply.store.resolve code.text = .ok url ∧ later.resolve code.text = .ok url := by
  subst served
  intro later echo
  obtain ⟨start, -, reached⟩ := MemoryStore.records_empty.runAll_grows calls
  obtain ⟨url, code, ledger, asks, told, records, assigned⟩ :=
    exists_ledger_of_ok reached isShorten fine
  obtain ⟨longer, grown, laterRecords⟩ := storeAfter_grows positive records between
  have laterAssigned := assigned.mono grown
  have body : _ = assignment url code.text :=
    (congrArg Response.body told).trans (Http.Response.body_withLength _)
  rw [← sentBack] at short ⊢
  rw [body] at sentBack
  obtain ⟨response, kept⟩ :=
    serve_assignment positive laterRecords laterAssigned isShortenAgain short sentBack
  refine ⟨response.trans told.symm, kept, url, code, ?_, ?_, ?_, ?_⟩
  · exact ShortenRequest.read_eq_ok_iff_asks.mp asks.2.2
  · rw [sentBack]
    exact isObjectOf_assignment url code.text
  · rw [records.resolve, Ledger.resolve_of_assigns records.bounded assigned]
  · rw [laterRecords.resolve, Ledger.resolve_of_assigns laterRecords.bounded laterAssigned]

/-- A URL is shortened on a new store, another one after it, and then the first response is
sent back. -/
theorem serve_response_again_once :
    let request := requestFor "a"
    let reply := serve gatewaySite 1 (Call.runAll MemoryStore.empty []).store request
    let again := requestWith (Utf8.ofString reply.response.body)
    let later := storeAfter 1 reply.store [requestFor "b"]
    0 < 1 ∧ IsShorten request ∧ reply.response.status = 200 ∧
      (Utf8.ofString reply.response.body).length ≤ maximumBodyLength ∧ IsShorten again ∧
      (serve gatewaySite 1 later again).response = reply.response ∧
      (serve gatewaySite 1 later again).store = later := by
  intro request reply again later
  have asks : AsksFor request "a" := asksFor_requestFor (by decide)
  have answered : (MemoryStore.empty.shorten "a").answer = .ok (ShortCode.ofNumber 1) := by
    rw [MemoryStore.records_empty.shorten_of_not_mem List.not_mem_nil (by decide)]
    rfl
  have tells : Tells reply.response "a" (ShortCode.ofNumber 1).text :=
    tells_of_asksFor Nat.one_pos asks answered
  have spelled : (ShortCode.ofNumber 1).text = "1" := by
    change String.ofList (Base62.digitsOnto [] 1) = "1"
    rw [Base62.digitsOnto, if_pos (by decide)]
    rfl
  have short : (Utf8.ofString reply.response.body).length ≤ maximumBodyLength := by
    rw [tells.2, spelled]
    decide
  have isShortenAgain : IsShorten again := isShorten_requestWith _
  obtain ⟨response, kept, -⟩ := serve_response_again Nat.one_pos [] [requestFor "b"]
    (rfl : _ = reply) asks.1 tells.1 short isShortenAgain (body_requestWith _)
  exact ⟨Nat.one_pos, asks.1, tells.1, short, isShortenAgain, response, kept⟩

end Shortlink.Gateway
