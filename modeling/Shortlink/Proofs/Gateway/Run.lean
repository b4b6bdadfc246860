import Shortlink.Proofs.Gateway.Serve
import Shortlink.Proofs.Json.Written
import Shortlink.Proofs.Store.Growth

/-!
# Runs of requests

The gateway serves requests one after the other in front of one store.  A URL that
has been given a key keeps it: from then on the key leads to the URL, the URL is
given this key again, and no other URL ever has it.
-/

namespace Shortlink.Gateway

open Http (Request Response)
open scoped List

/-! ## What requests ask and responses tell -/

/-- A request to shorten something. -/
def IsShorten (request : Request) : Prop :=
  request.method = "POST" ∧ request.target.path = "/shorten"

/-- A request to shorten a URL. -/
def AsksFor (request : Request) (url : String) : Prop :=
  IsShorten request ∧ request.body.length ≤ maximumBodyLength ∧
    ShortenRequest.read request.body = .ok url

/-- A request that goes to a key. -/
def GoesTo (request : Request) (key : String) : Prop :=
  request.method = "GET" ∧ request.target.path = "/go/" ++ key

/-- The document that tells the key of a URL. -/
def assignment (url key : String) : String :=
  Json.object [("url", Json.string url), ("key", Json.string key)]

/-- A response that tells the key of a URL. -/
def Tells (response : Response) (url key : String) : Prop :=
  response.status = 200 ∧ response.body = assignment url key

/-- A text whose bytes can all stand in a header: tabs, and no other controls. -/
def IsSendable (text : String) : Prop :=
  ∀ byte ∈ Utf8.ofString text, byte = 0x09 ∨ 0x20 ≤ byte ∧ byte ≠ 0x7F

/-- A response that leads to a URL, if a header can hold it, or else tells of a failure and
leads nowhere. -/
def LeadsTo (response : Response) (url : String) : Prop :=
  (IsSendable url → response.status = 302 ∧ response.header? "location" = some url) ∧
  (¬IsSendable url →
    response.status = 500 ∧
      response.body = "\x7b\"error\":\"internal server error\"\x7d" ∧
      response.header? "location" = none)

/-- Every URL can be asked for, by a list that holds it alone. -/
theorem read_list_string (url : String) :
    ShortenRequest.read (0x5B :: (Utf8.ofString (Json.string url) ++ [0x5D])) = .ok url := by
  obtain ⟨written, quoted⟩ :
      ∃ written, Utf8.ofString (Json.string url) ++ [0x5D] = 0x22 :: written :=
    ⟨_, by rw [Json.ofString_string, List.cons_append]⟩
  have element := Json.expectText_string url [0x5D]
  have noBlank : Json.skipBlanks (0x22 :: written) = 0x22 :: written := rfl
  have list : ShortenRequest.list (0x22 :: written) = .ok (url, []) := by
    rw [quoted] at element
    unfold ShortenRequest.list
    simp only [noBlank]
    rw [if_neg (by decide), element]
    rfl
  rw [quoted]
  change (ShortenRequest.list (0x22 :: written)).bind _ = _
  rw [list]
  rfl

theorem assignment_inj {url key otherUrl otherKey : String}
    (same : assignment url key = assignment otherUrl otherKey) :
    url = otherUrl ∧ key = otherKey :=
  Json.object_string_pair_inj same

theorem isHeaderValue_iff {text : String} : Http.isHeaderValue text = true ↔ IsSendable text := by
  simp [Http.isHeaderValue, Http.isValueByte, IsSendable]

/-! ## One request -/

section One

variable {σ : Type} [KeyStore σ] {store : σ} {request : Request} {timeout : Nat}

/-- A URL is told the key that the store has for it. -/
theorem exists_code_of_tells (positive : 0 < timeout) (asks : IsShorten request) {url key : String}
    (tells : Tells (serve gatewaySite timeout store request).response url key) :
    ∃ code : ShortCode, code.text = key ∧ (KeyStore.shorten store url).answer = .ok code ∧
      (serve gatewaySite timeout store request).store = (KeyStore.shorten store url).store := by
  obtain ⟨post, path⟩ := asks
  obtain ⟨fine, body⟩ := tells
  obtain ⟨response, left⟩ := serve_shorten positive store post path
  rw [response, Http.Response.status_withLength] at fine
  rw [response, Http.Response.body_withLength] at body
  rw [left]
  rcases shorten_cases store request with ⟨found, -, -, work⟩ | ⟨refusal, events, bad, work⟩
  · rw [work] at fine body ⊢
    cases answered : (KeyStore.shorten store found).answer with
    | ok code =>
        rw [shortenUrl_of_ok answered] at body ⊢
        obtain ⟨rfl, rfl⟩ := assignment_inj body
        exact ⟨code, rfl, answered, rfl⟩
    | error failure =>
        rw [shortenUrl_of_error answered] at fine
        exact absurd (show 500 = 200 from fine) (by decide)
  · rw [work] at fine
    exact absurd (fine ▸ bad) (by decide)

/-- A request for the key of a URL is told the key that the store has for it. -/
theorem tells_of_asksFor (positive : 0 < timeout) {url : String} {code : ShortCode}
    (asks : AsksFor request url) (answered : (KeyStore.shorten store url).answer = .ok code) :
    Tells (serve gatewaySite timeout store request).response url code.text := by
  obtain ⟨⟨post, path⟩, short, read⟩ := asks
  rw [(serve_shorten positive store post path).1, shorten_of_read short read,
    shortenUrl_of_ok answered]
  exact ⟨Http.Response.status_withLength _, Http.Response.body_withLength _⟩

/-- A request that goes to the key of a URL is led to it. -/
theorem leadsTo_of_goesTo (positive : 0 < timeout) {url : String} {code : ShortCode}
    (goes : GoesTo request code.text)
    (resolved : (KeyStore.resolve store code.text).1 = .ok url) :
    LeadsTo (serve gatewaySite timeout store request).response url := by
  obtain ⟨get, path⟩ := goes
  have location (plain : Response) :
      plain.withLength.header? "location" = plain.header? "location" :=
    Http.Response.header?_withLength_of_ne plain (by decide)
  rw [serve_go positive store get path]
  constructor
  · intro sendable
    have fits := isHeaderValue_iff.mpr sendable
    simp only [redirectKey, resolved, fits, if_true]
    exact ⟨Http.Response.status_withLength _, location _⟩
  · intro unsendable
    have unfit : ¬Http.isHeaderValue url = true := fun fits =>
      unsendable (isHeaderValue_iff.mp fits)
    simp only [redirectKey, resolved, if_neg unfit]
    have body := (Failure.invalidRedirect code.text).body_response
    exact ⟨Http.Response.status_withLength _, (Http.Response.body_withLength _).trans body,
      location _⟩

end One

section Store

variable {store : MemoryStore} {ledger : Ledger} {timeout : Nat}

/-- Once a URL has a key, the key leads to it and it is told the key. -/
theorem serve_of_assigns (positive : 0 < timeout) (records : store.Records ledger)
    {url key : String} (assigned : ledger.Assigns url key) (request : Request) :
    (GoesTo request key → LeadsTo (serve gatewaySite timeout store request).response url) ∧
      (AsksFor request url → Tells (serve gatewaySite timeout store request).response url key) := by
  obtain ⟨index, found, rfl⟩ := assigned
  have assigned : ledger.Assigns url (Ledger.codeAt index).text := ⟨index, found, rfl⟩
  constructor
  · intro goes
    apply leadsTo_of_goesTo positive goes
    exact (records.resolve _).trans (Ledger.resolve_of_assigns records.bounded assigned)
  · intro asks
    exact tells_of_asksFor positive asks (records.answer_shorten_of_assigns assigned)

/-- A request leaves a longer ledger at most, which has the key that the response tells. -/
theorem serve_grows (positive : 0 < timeout) (records : store.Records ledger)
    (request : Request) :
    ∃ longer : Ledger, ledger <+: longer ∧
      (serve gatewaySite timeout store request).store.Records longer ∧
      ∀ url key, IsShorten request →
        Tells (serve gatewaySite timeout store request).response url key →
        longer.Assigns url key := by
  by_cases told : ∃ url key, IsShorten request ∧
      Tells (serve gatewaySite timeout store request).response url key
  · obtain ⟨url, key, asks, tells⟩ := told
    obtain ⟨code, rfl, answered, left⟩ := exists_code_of_tells positive asks tells
    obtain ⟨longer, grown, kept, sound⟩ := records.shorten url
    refine ⟨longer, grown, left ▸ kept, ?_⟩
    intro otherUrl otherKey _ otherTells
    obtain ⟨rfl, rfl⟩ := assignment_inj (tells.2.symm.trans otherTells.2)
    exact sound code answered
  · have silent url key (asks : IsShorten request)
        (tells : Tells (serve gatewaySite timeout store request).response url key) :
        False := told ⟨url, key, asks, tells⟩
    rcases store_serve positive store request with same | ⟨url, left⟩
    · refine ⟨ledger, List.prefix_refl ledger, by rwa [same], ?_⟩
      exact fun url key asks tells => (silent url key asks tells).elim
    · obtain ⟨longer, grown, kept, -⟩ := records.shorten url
      refine ⟨longer, grown, left ▸ kept, ?_⟩
      exact fun url key asks tells => (silent url key asks tells).elim

end Store

/-! ## Runs -/

/-- A request and the response to it. -/
structure Exchange where
  request : Request
  response : Response

/-- Requests that are served one after the other, with their responses. -/
def exchanges {σ : Type} [KeyStore σ] (timeout : Nat) (store : σ) : List Request → List Exchange
  | [] => []
  | request :: requests =>
      let reply := serve gatewaySite timeout store request
      ⟨request, reply.response⟩ :: exchanges timeout reply.store requests

/-- A URL is told its key. -/
def Exchange.Assigns (exchange : Exchange) (url key : String) : Prop :=
  IsShorten exchange.request ∧ Tells exchange.response url key

/-- Who goes to the key is led to the URL, and who asks for the URL is told the key. -/
def Exchange.Honours (exchange : Exchange) (url key : String) : Prop :=
  (GoesTo exchange.request key → LeadsTo exchange.response url) ∧
    (AsksFor exchange.request url → Tells exchange.response url key)

section Runs

variable {store : MemoryStore} {ledger : Ledger} {timeout : Nat} {requests : List Request}

/-- What the ledger has at the beginning is honoured throughout. -/
theorem honours_of_assigns (positive : 0 < timeout) (records : store.Records ledger)
    {url key : String} (assigned : ledger.Assigns url key) :
    ∀ exchange ∈ exchanges timeout store requests, exchange.Honours url key := by
  induction requests generalizing store ledger with
  | nil => exact fun _ member => absurd member List.not_mem_nil
  | cons request rest ih =>
      intro exchange member
      rcases List.mem_cons.mp member with rfl | later
      · exact serve_of_assigns positive records assigned request
      · obtain ⟨longer, grown, kept, -⟩ := serve_grows positive records request
        exact ih kept (assigned.mono grown) exchange later

/-- What has been told is honoured from then on. -/
theorem honours_of_sublist (positive : 0 < timeout) (records : store.Records ledger)
    {first later : Exchange} {url key : String} (assigns : first.Assigns url key)
    (order : [first, later] <+ exchanges timeout store requests) : later.Honours url key := by
  induction requests generalizing store ledger with
  | nil => exact absurd order (by simp [exchanges])
  | cons request rest ih =>
      obtain ⟨longer, grown, kept, sound⟩ := serve_grows positive records request
      rcases List.cons_sublist_cons'.mp order with inRest | ⟨rfl, inRest⟩
      · exact ih kept inRest
      · exact honours_of_assigns positive kept (sound url key assigns.1 assigns.2) later
          (List.singleton_sublist.mp inRest)

/-- All that is told in a run is in one ledger. -/
theorem exists_ledger (positive : 0 < timeout) (records : store.Records ledger)
    (requests : List Request) :
    ∃ final : Ledger, ledger <+: final ∧ final.length < UInt64.size ∧ final.Nodup ∧
      ∀ exchange ∈ exchanges timeout store requests, ∀ url key, exchange.Assigns url key →
        final.Assigns url key := by
  induction requests generalizing store ledger with
  | nil =>
      refine ⟨ledger, List.prefix_refl ledger, records.bounded, records.distinct, ?_⟩
      exact fun _ member => absurd member List.not_mem_nil
  | cons request rest ih =>
      obtain ⟨longer, grown, kept, sound⟩ := serve_grows positive records request
      obtain ⟨final, further, bounded, distinct, others⟩ := ih kept
      refine ⟨final, grown.trans further, bounded, distinct, ?_⟩
      intro exchange member url key assigns
      rcases List.mem_cons.mp member with rfl | later
      · exact (sound url key assigns.1 assigns.2).mono further
      · exact others exchange later url key assigns

end Runs

/-- In every run of requests on a new store: once a URL has been told a key, everybody who
goes to the key is led to the URL, everybody who asks for the URL is told the key, and in
the whole run the key is told for no other URL and the URL is told no other key. -/
theorem exchanges_empty_honour {timeout : Nat} (positive : 0 < timeout)
    (requests : List Request) {first : Exchange}
    (member : first ∈ exchanges timeout MemoryStore.empty requests) {url key : String}
    (assigns : first.Assigns url key) :
    (∀ later, [first, later] <+ exchanges timeout MemoryStore.empty requests →
        later.Honours url key) ∧
      ∀ other ∈ exchanges timeout MemoryStore.empty requests, ∀ otherUrl otherKey,
        other.Assigns otherUrl otherKey → (otherUrl = url ↔ otherKey = key) := by
  constructor
  · intro later order
    exact honours_of_sublist positive MemoryStore.records_empty assigns order
  · intro other otherMember otherUrl otherKey otherAssigns
    obtain ⟨final, -, bounded, distinct, told⟩ :=
      exists_ledger positive MemoryStore.records_empty requests
    have own := told first member url key assigns
    have others := told other otherMember otherUrl otherKey otherAssigns
    constructor
    · rintro rfl
      exact others.key_unique distinct own
    · rintro rfl
      exact others.url_unique bounded own

/-- One client shortens a URL, and another one follows its key. -/
theorem exchanges_empty_honour_once :
    let key := (ShortCode.ofNumber 1).text
    let asking : Request :=
      { method := "POST"
        target := { path := "/shorten" }
        body := [0x5B, 0x22, 0x61, 0x22, 0x5D] }
    let going : Request := { target := { path := "/go/" ++ key } }
    let first : Exchange := ⟨asking, (serve gatewaySite 1 MemoryStore.empty asking).response⟩
    0 < 1 ∧ first ∈ exchanges 1 MemoryStore.empty [asking, going] ∧
      first.Assigns "a" key ∧
      ∃ later, [first, later] <+ exchanges 1 MemoryStore.empty [asking, going] ∧
        LeadsTo later.response "a" := by
  intro key asking going first
  have read : ShortenRequest.read asking.body = .ok "a" := by
    have written : asking.body = 0x5B :: (Utf8.ofString (Json.string "a") ++ [0x5D]) := by
      decide
    rw [written, read_list_string]
  have asks : AsksFor asking "a" := ⟨⟨rfl, rfl⟩, by decide, read⟩
  have answered : (MemoryStore.empty.shorten "a").answer = .ok (ShortCode.ofNumber 1) := by
    rw [MemoryStore.records_empty.shorten_of_not_mem List.not_mem_nil (by decide)]
    rfl
  have assigns : first.Assigns "a" key :=
    ⟨asks.1, tells_of_asksFor Nat.one_pos asks answered⟩
  have member : first ∈ exchanges 1 MemoryStore.empty [asking, going] := List.mem_cons_self
  have honoured := (exchanges_empty_honour Nat.one_pos [asking, going] member assigns).1
  refine ⟨Nat.one_pos, member, assigns, _, List.Sublist.refl _, ?_⟩
  exact (honoured _ (List.Sublist.refl _)).1 ⟨rfl, rfl⟩

end Shortlink.Gateway
