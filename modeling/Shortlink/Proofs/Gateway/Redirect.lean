import Shortlink.Proofs.Gateway.Run
import Shortlink.Store.Counter

/-!
# Redirections

Who is redirected, and where to.  A request is led to a URL exactly if it asks for a path
of one segment that spells a key under which the URL is found; no other response names a
location.  However a key is spelled, what is found under it decides the response.
-/

namespace Shortlink.Http

/-- The locations that a response names. -/
def Response.locations (response : Response) : List String :=
  (response.headers.filter fun header => header.1 = "location").map Prod.snd

theorem Response.locations_withHeader (response : Response) {name : String} (value : String)
    (other : name ≠ "location") :
    (response.withHeader name value).locations = response.locations := by
  rw [withHeader]
  cases response.header? name with
  | some _ => rfl
  | none => simp [locations, other]

end Shortlink.Http

namespace Shortlink.Gateway

open Http (Request Response PercentSpells IsSpelling)

/-! ## Statuses and locations -/

theorem Failure.status_mem (failure : Failure) : failure.status ∈ [400, 404, 500] := by
  cases failure <;> simp [status]

theorem Refusal.status_mem (refusal : Refusal) : refusal.status ∈ [400, 413] := by
  cases refusal <;> simp [status]

@[simp]
theorem locations_complete (request : Request) (response : Response) :
    (complete request response).locations = response.locations := by
  have kept : response.withLength.locations = response.locations :=
    response.locations_withHeader _ (by decide)
  unfold complete
  dsimp only
  split
  · exact kept
  · exact kept

/-- A response that leads nowhere. -/
def LeadsNowhere (response : Response) : Prop :=
  response.status ≠ 302 ∧ response.locations = []

namespace LeadsNowhere

theorem json {status : Nat} (other : status ≠ 302) (document : String) :
    LeadsNowhere (.json status document) :=
  ⟨other, rfl⟩

theorem plain {status : Nat} (other : status ≠ 302) (text : String) :
    LeadsNowhere (.plain status text) :=
  ⟨other, rfl⟩

theorem bare {status : Nat} (other : status ≠ 302) : LeadsNowhere { status } :=
  ⟨other, rfl⟩

theorem complete {response : Response} (nowhere : LeadsNowhere response) (request : Request) :
    LeadsNowhere (complete request response) := by
  rwa [LeadsNowhere, status_complete, locations_complete]

theorem withHeader {response : Response} (nowhere : LeadsNowhere response) {name : String}
    (other : name ≠ "location") (value : String) :
    LeadsNowhere (response.withHeader name value) := by
  rwa [LeadsNowhere, Http.Response.status_withHeader, response.locations_withHeader value other]

/-- Nothing that a response is completed with leads anywhere. -/
theorem dispatch_complete {σ : Type} {response : Response} (nowhere : LeadsNowhere response)
    (dispatch : Dispatch σ) (request : Request) :
    LeadsNowhere (dispatch.complete request response) := by
  have completed {allowing : Response} (still : LeadsNowhere allowing) :
      LeadsNowhere (if dispatch.isCompleted request then Gateway.complete request allowing
        else allowing) := by
    split
    · exact still.complete request
    · exact still
  cases dispatch with
  | refused resource => exact completed (nowhere.withHeader (by decide) _)
  | handled _ => exact completed nowhere
  | unknown => exact completed nowhere

end LeadsNowhere

/-! ## Going to a key -/

/-- A request to be shown what is under a path, with its body or without. -/
def AsksToShow (request : Request) : Prop :=
  request.method = "GET" ∨ request.method = "HEAD"

/-- A request whose path is `/go/` and one segment. -/
def GoesBy (request : Request) (segment : String) : Prop :=
  request.target.path = "/go/" ++ segment ∧ segment ≠ "" ∧ '/' ∉ segment.toList

/-- A segment spells a key. -/
def SpellsKey (segment key : String) : Prop :=
  PercentSpells (Utf8.ofString segment) (Utf8.ofString key)

/-- The response to someone who goes to a key, by what is found under it. -/
def keyResponse : Except KeyError String → Response
  | .ok url =>
      if Http.isHeaderValue url then redirectResponse url
      else failureResponse 500 "internal server error"
  | .error (.notFound _) => failureResponse 404 "key not found"
  | .error (.invalid _) => failureResponse 400 "invalid request"

theorem isAskedBy_get_iff {request : Request} :
    Verb.get.isAskedBy request.method = true ↔ AsksToShow request := by
  simp [Verb.isAskedBy, AsksToShow]

theorem keyResponse_of_sendable {url : String} (sendable : IsSendable url) :
    keyResponse (.ok url) = redirectResponse url :=
  if_pos (isHeaderValue_iff.mpr sendable)

theorem keyResponse_of_not_sendable {url : String} (unsendable : ¬IsSendable url) :
    keyResponse (.ok url) = failureResponse 500 "internal server error" :=
  if_neg fun fits => unsendable (isHeaderValue_iff.mp fits)

/-- Who finds nothing under a key is told of the failure that this is. -/
theorem keyResponse_error (missing : KeyError) :
    keyResponse (.error missing) = (Failure.ofKeyError missing).response := by
  rw [Failure.response_eq]
  cases missing <;> rfl

/-- What is found under a key is a URL that can be sent, or a failure. -/
theorem keyResponse_cases (found : Except KeyError String) :
    (∃ url, found = .ok url ∧ IsSendable url ∧ keyResponse found = redirectResponse url) ∨
      ∃ failure : Failure, keyResponse found = failure.response := by
  cases found with
  | error missing => exact .inr ⟨.ofKeyError missing, keyResponse_error missing⟩
  | ok url =>
      by_cases sendable : IsSendable url
      · exact .inl ⟨url, rfl, sendable, keyResponse_of_sendable sendable⟩
      · have failed := keyResponse_of_not_sendable sendable
        exact .inr ⟨.internal, failed.trans Failure.internal.response_eq.symm⟩

/-- Who writes a key into a target with care goes by a segment that spells it. -/
theorem exists_segment_of_isSpelling {request : Request} {key : String} {bytes : List UInt8}
    (filled : key ≠ "") (spelling : IsSpelling bytes (Utf8.ofString key))
    (parsed : Http.Target.parse (Utf8.ofString "/go/" ++ bytes) = .ok request.target) :
    ∃ segment, GoesBy request segment ∧ SpellsKey segment key := by
  have absent {mark : UInt8} (isMark : mark ∈ Http.segmentMarks) (other : mark ≠ 0x25) :
      mark ∉ bytes := fun member => other (spelling.eq_of_mem isMark member)
  have noEnd : ∀ byte ∈ bytes, byte ≠ 0x3F ∧ byte ≠ 0x23 := by
    intro byte member
    constructor
    · rintro rfl
      exact absent (by decide) (by decide) member
    · rintro rfl
      exact absent (by decide) (by decide) member
  obtain ⟨segment, path, rfl⟩ := Http.Target.exists_segment_of_parse noEnd parsed
  refine ⟨segment, ⟨path, ?_, ?_⟩, spelling.percentSpells⟩
  · rintro rfl
    have some : Utf8.ofString key ≠ Utf8.ofString "" := Utf8.ofString_injective.ne filled
    exact spelling.ne_nil some rfl
  · intro slash
    exact @absent 0x2F (by decide) (by decide) (Utf8.mem_ofString rfl slash)

/-! ## Responses -/

section Responses

variable {σ : Type} [KeyStore σ] {store : σ} {request : Request} {timeout : Nat}

/-- A request that is led to a URL. -/
def IsLedTo (store : σ) (request : Request) (url : String) : Prop :=
  AsksToShow request ∧ ∃ segment key, GoesBy request segment ∧ SpellsKey segment key ∧
    (KeyStore.resolve store key).1 = .ok url ∧ IsSendable url

theorem ending_redirectKey (store : σ) (key : String) :
    (redirectKey store key).ending = .answer (keyResponse (KeyStore.resolve store key).1) := by
  unfold redirectKey
  dsimp only
  cases (KeyStore.resolve store key).1 with
  | error missing =>
      rw [keyResponse_error]
      rfl
  | ok url =>
      rw [keyResponse]
      dsimp only
      split
      · rfl
      · exact congrArg Ending.answer (Failure.invalidRedirect key).response_eq

theorem dispatch_goesBy {segment : String} (shown : AsksToShow request)
    (goes : GoesBy request segment) :
    (gatewaySite : Site σ).dispatch request =
      .handled { verb := .get, handle := redirect segment } :=
  dispatch_segment (isAskedBy_get_iff.mpr shown) goes.1 goes.2.1 goes.2.2

/-- Who goes to a key is told what is found under it. -/
theorem response_of_spellsKey (positive : 0 < timeout) (store : σ) {segment key : String}
    (shown : AsksToShow request) (goes : GoesBy request segment) (spells : SpellsKey segment key) :
    (serve gatewaySite timeout store request).response =
      complete request (keyResponse (KeyStore.resolve store key).1) := by
  rw [response_serve positive, dispatch_goesBy shown goes]
  dsimp only [Dispatch.work, redirect]
  rw [Http.percentDecodeText?_eq_some_iff.mpr spells, ending_redirectKey]
  rfl

/-- Who goes by a segment that spells no key is refused. -/
theorem response_of_not_spellsKey (positive : 0 < timeout) (store : σ) {segment : String}
    (shown : AsksToShow request) (goes : GoesBy request segment)
    (astray : ¬∃ key, SpellsKey segment key) :
    (serve gatewaySite timeout store request).response =
      complete request (Refusal.undecodableParameter "key").response := by
  rw [response_serve positive, dispatch_goesBy shown goes]
  dsimp only [Dispatch.work, redirect]
  rw [Http.percentDecodeText?_eq_none_iff.mpr astray]
  rfl

/-- A request that is led to a URL is redirected to it. -/
theorem response_of_isLedTo (positive : 0 < timeout) {url : String}
    (led : IsLedTo store request url) :
    (serve gatewaySite timeout store request).response =
      complete request (redirectResponse url) := by
  obtain ⟨shown, segment, key, goes, spells, found, sendable⟩ := led
  rw [response_of_spellsKey positive store shown goes spells, found,
    keyResponse_of_sendable sendable]

/-- What can come of a request to the gateway, before it is completed. -/
inductive Results (store : σ) (request : Request) : Response → Prop
  /-- A sign of life. -/
  | alive : Results store request pongResponse
  | shortened (url : String) (code : ShortCode) : Results store request (shortenResponse url code)
  /-- A redirection to the URL that the request is led to. -/
  | redirected {url : String} : IsLedTo store request url →
      Results store request (redirectResponse url)
  | failed (failure : Failure) : Results store request failure.response
  | refused (refusal : Refusal) : Results store request refusal.response
  /-- There is something that cannot be asked that. -/
  | notAllowed : Results store request { status := 405 }
  /-- There is nothing under the path. -/
  | nothing : Results store request { status := 404 }

theorem results_shorten (store : σ) (request : Request) :
    Results store request (shorten store request).ending.recover.1 := by
  unfold shorten
  split
  · exact .refused _
  · split
    · exact .failed _
    · unfold shortenUrl
      dsimp only
      split
      · exact .shortened _ _
      · exact .failed .internal

theorem results_redirect (store : σ) (shown : AsksToShow request) {segment : String}
    (goes : GoesBy request segment) :
    Results store request (redirect segment store request).ending.recover.1 := by
  unfold redirect
  split
  · exact .refused _
  · rename_i key spelled
    rw [ending_redirectKey]
    rcases keyResponse_cases (KeyStore.resolve store key).1 with
      ⟨url, found, sendable, redirection⟩ | ⟨failure, failed⟩
    · have spells : SpellsKey segment key := Http.percentDecodeText?_eq_some_iff.mp spelled
      rw [redirection]
      exact .redirected ⟨shown, segment, key, goes, spells, found, sendable⟩
    · rw [failed]
      exact .failed failure

theorem results_work (store : σ) (request : Request) :
    Results store request
      (((gatewaySite : Site σ).dispatch request).work store request).ending.recover.1 := by
  unfold Site.dispatch
  split
  · exact .nothing
  · rename_i resource found
    split
    · rename_i asked
      rcases gatewaySite_eq_some found with rfl | ⟨-, rfl⟩ | ⟨segment, cut, rfl⟩
      · exact .alive
      · exact results_shorten store request
      · obtain ⟨path, absent⟩ := pieces_eq_go_iff.mp cut
        refine results_redirect store (isAskedBy_get_iff.mp asked) ⟨path, ?_, absent⟩
        rintro rfl
        rw [cut] at found
        contradiction
    · exact .notAllowed

/-- A response is a redirection to the URL that its request is led to, or it leads nowhere. -/
theorem Results.leadsNowhere_or {response : Response} (results : Results store request response) :
    LeadsNowhere response ∨ ∃ url, IsLedTo store request url := by
  cases results with
  | alive => exact .inl (.json (by decide) _)
  | shortened url code => exact .inl (.json (by decide) _)
  | redirected led => exact .inr ⟨_, led⟩
  | failed failure =>
      refine .inl (.json (fun moved => ?_) _)
      exact absurd (moved ▸ failure.status_mem) (by decide)
  | refused refusal =>
      refine .inl (.plain (fun moved => ?_) _)
      exact absurd (moved ▸ refusal.status_mem) (by decide)
  | notAllowed => exact .inl (.bare (by decide))
  | nothing => exact .inl (.bare (by decide))

/-- A response leads nowhere unless its request is led to a URL. -/
theorem leadsNowhere_or_isLedTo (positive : 0 < timeout) (store : σ) (request : Request) :
    LeadsNowhere (serve gatewaySite timeout store request).response ∨
      ∃ url, IsLedTo store request url := by
  rw [response_serve positive]
  rcases (results_work store request).leadsNowhere_or with nowhere | led
  · exact .inl (nowhere.dispatch_complete _ request)
  · exact .inr led

/-! ## The law of redirections -/

/-- A response is a redirection exactly if its request is led to a URL, which is its one
location then, and no other response has a location.  What else may come of going to a key
is told by the status.  However carefully a key is spelled in a segment, it is what is found
under the key that is told. -/
theorem status_eq_found_iff (positive : 0 < timeout) (store : σ) (request : Request) :
    let response := (serve gatewaySite timeout store request).response
    (response.status = 302 ↔ ∃ url, IsLedTo store request url) ∧
      (∀ url, IsLedTo store request url → response.locations = [url]) ∧
      (response.status ≠ 302 → response.locations = []) ∧
      (request.method = "GET" → ∀ segment, GoesBy request segment →
        ((¬∃ key, SpellsKey segment key) → response.status = 400) ∧
        ∀ key, SpellsKey segment key →
          (∀ missing, (KeyStore.resolve store key).1 = .error (.notFound missing) →
            response = (failureResponse 404 "key not found").withLength) ∧
          (∀ detail, (KeyStore.resolve store key).1 = .error (.invalid detail) →
            response = (failureResponse 400 "invalid request").withLength) ∧
          ∀ url, (KeyStore.resolve store key).1 = .ok url → ¬IsSendable url →
            response = (failureResponse 500 "internal server error").withLength) ∧
      ∀ key bytes, key ≠ "" → IsSpelling bytes (Utf8.ofString key) →
        Http.Target.parse (Utf8.ofString "/go/" ++ bytes) = .ok request.target →
        AsksToShow request →
          response = complete request (keyResponse (KeyStore.resolve store key).1) := by
  intro response
  have redirected {url : String} (led : IsLedTo store request url) :
      response = complete request (redirectResponse url) := response_of_isLedTo positive led
  refine ⟨⟨?_, ?_⟩, ?_, ?_, ?_, ?_⟩
  · intro moved
    rcases leadsNowhere_or_isLedTo positive store request with nowhere | led
    · exact absurd moved nowhere.1
    · exact led
  · rintro ⟨url, led⟩
    rw [redirected led, status_complete]
    rfl
  · intro url led
    rw [redirected led, locations_complete]
    rfl
  · intro other
    rcases leadsNowhere_or_isLedTo positive store request with nowhere | ⟨url, led⟩
    · exact nowhere.2
    · rw [redirected led, status_complete] at other
      exact absurd rfl other
  · intro get segment goes
    have whole (plain : Response) : complete request plain = plain.withLength := by
      simp [complete, get]
    constructor
    · intro astray
      have refused := response_of_not_spellsKey positive store (.inl get) goes astray
      rw [show response = _ from refused, status_complete]
      rfl
    · intro key spells
      have told : response = (keyResponse (KeyStore.resolve store key).1).withLength :=
        (response_of_spellsKey positive store (.inl get) goes spells).trans (whole _)
      refine ⟨?_, ?_, ?_⟩
      · intro missing found
        rw [told, found]
        rfl
      · intro detail found
        rw [told, found]
        rfl
      · intro url found unsendable
        rw [told, found, keyResponse_of_not_sendable unsendable]
  · intro key bytes filled spelling parsed shown
    obtain ⟨segment, goes, spells⟩ := exists_segment_of_isSpelling filled spelling parsed
    exact response_of_spellsKey positive store shown goes spells

end Responses

/-- The store that only counts has the number 62 under `10`, also if the zero is escaped. -/
theorem status_eq_found_iff_of_escape :
    let store : CounterStore := {}
    let request : Request := { target := { path := "/go/1%30" } }
    let response := (serve gatewaySite 1 store request).response
    0 < 1 ∧ IsLedTo store request "62" ∧ response.status = 302 ∧ response.locations = ["62"] ∧
      IsSpelling (Utf8.ofString "1%30") (Utf8.ofString "10") ∧
      Http.Target.parse (Utf8.ofString "/go/" ++ Utf8.ofString "1%30") = .ok request.target ∧
      response = complete request (keyResponse (KeyStore.resolve store "10").1) := by
  intro store request response
  have escape : IsSpelling (Utf8.ofString "%30") (Utf8.ofString "0") :=
    .escape (a := 3) (b := 0) (by decide) (by decide) .nil
  have spelling : IsSpelling (Utf8.ofString "1%30") (Utf8.ofString "10") :=
    .plain (by decide) escape
  have parsed :
      Http.Target.parse (Utf8.ofString "/go/" ++ Utf8.ofString "1%30") = .ok request.target := by
    decide +kernel
  have found : (KeyStore.resolve store "10").1 = .ok "62" := by
    decide +kernel
  have led : IsLedTo store request "62" :=
    ⟨.inl rfl, "1%30", "10", ⟨rfl, by decide, by decide⟩, spelling.percentSpells, found,
      isHeaderValue_iff.mp (by decide)⟩
  obtain ⟨moved, located, -, -, told⟩ := status_eq_found_iff Nat.one_pos store request
  exact ⟨Nat.one_pos, led, moved.mpr ⟨"62", led⟩, located "62" led, spelling, parsed,
    told "10" _ (by decide) spelling parsed (.inl rfl)⟩

end Shortlink.Gateway
