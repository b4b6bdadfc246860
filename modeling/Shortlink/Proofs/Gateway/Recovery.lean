import Shortlink.Proofs.Concurrent.Linear
import Shortlink.Proofs.Gateway.Shorten
import Shortlink.Session

/-!
# Recovering from the end of the sequence

A URL that is refused at the end of the sequence leaves no trace.  The store is as
before, the gateway tells of a failure, and whatever follows is answered as if nothing
had happened.  In particular all URLs that have a code keep it.
-/

namespace Shortlink.Session

open Gateway

/-! ## Steps -/

section Any

variable {σ : Type} [KeyStore σ] {timeout : Nat} {stores : Stores σ} {number : Nat} {step : Step}

/-- The stores after steps. -/
def storesAfter (timeout : Nat) (stores : Stores σ) : List (Nat × Step) → Stores σ
  | [] => stores
  | (number, step) :: steps =>
      storesAfter timeout (stores.set number (step.run timeout (stores number)).store) steps

omit [KeyStore σ] in
theorem Stores.set_self (stores : Stores σ) (number : Nat) :
    stores.set number (stores number) = stores := by
  funext other
  rw [Stores.set]
  split
  · rename_i same
    rw [same]
  · rfl

/-- A step that leaves its store as it is does nothing to what follows. -/
theorem run_of_kept (kept : (step.run timeout (stores number)).store = stores number)
    (steps : List (Nat × Step)) :
    run timeout stores ((number, step) :: steps) =
      ({ answer := (step.run timeout (stores number)).answer
         allocated := KeyStore.allocated (stores number) },
        (step.run timeout (stores number)).entries) :: run timeout stores steps := by
  rw [run, kept, Stores.set_self]

end Any

theorem store_wait {σ : Type} (piece : String) (store : σ) : (wait piece store).store = store := by
  unfold wait
  split
  · rfl
  · split <;> rfl

theorem store_handle_of_probe {σ : Type} {pieces : List String} {resource : Resource σ}
    (found : probeSite pieces = some resource) (store : σ) (request : Http.Request) :
    (resource.handle store request).store = store := by
  unfold probeSite at found
  split at found
  case h_6 piece =>
    split at found
    · contradiction
    · obtain rfl := Option.some.inj found
      exact store_wait piece store
  case h_7 => contradiction
  all_goals
    obtain rfl := Option.some.inj found
    rfl

/-- The probe does nothing to a store. -/
theorem store_serve_probe {σ : Type} (timeout : Nat) (store : σ) (request : Http.Request) :
    (serve probeSite timeout store request).store = store := by
  refine Work.store_within ?_ timeout
  unfold Site.dispatch
  split
  · rfl
  · rename_i resource found
    split
    · exact store_handle_of_probe found store request
    · rfl

/-! ## Stores at the end of their sequence -/

variable {store : MemoryStore} {timeout : Nat}

theorem store_shortenAll_of_isAtEnd (atEnd : store.sequence.IsAtEnd) (urls : List String)
    (codes : List ShortCode) (events : List (List Log.Event)) :
    (shortenAll codes store events urls).store = store := by
  induction urls generalizing codes events with
  | nil => rfl
  | cons url rest ih =>
      have kept : (KeyStore.shorten store url).store = store :=
        MemoryStore.store_shorten_of_isAtEnd atEnd url
      rw [shortenAll]
      split
      · rw [kept]
        exact ih _ _
      · exact kept

theorem store_serve_of_isAtEnd (atEnd : store.sequence.IsAtEnd) (request : Http.Request) :
    (serve gatewaySite timeout store request).store = store := by
  obtain ⟨effect, otherwise⟩ := serve_effect timeout store request
  by_cases told : IsShorten request ∧
      (serve gatewaySite timeout store request).response.status = 200
  · obtain ⟨url, _, _, _, _, left, _⟩ := effect told
    rw [left, MemoryStore.store_shorten_of_isAtEnd atEnd]
  · exact otherwise told

/-- At the end of its sequence, a store stays as it is whatever is done with it. -/
theorem store_run_of_isAtEnd (atEnd : store.sequence.IsAtEnd) (step : Step) :
    (step.run timeout store).store = store := by
  cases step with
  | call call =>
      cases call with
      | shorten url => exact MemoryStore.store_shorten_of_isAtEnd atEnd url
      | resolve key => rfl
      | contains key => rfl
      | allocated => rfl
  | fill stem first count => exact store_shortenAll_of_isAtEnd atEnd ..
  | clients count urls =>
      have kept := store_shortenAll_of_isAtEnd atEnd
        ((List.range count).flatMap (clientOrder urls)) [] []
      simp only [Step.run, Result.ofOutcome, serveClients]
      split <;> exact kept
  | request host message =>
      cases message with
      | error failure => rfl
      | ok request =>
          cases host with
          | gateway => exact store_serve_of_isAtEnd atEnd request
          | probe => exact store_serve_probe timeout store request

theorem storesAfter_of_isAtEnd {stores : Stores MemoryStore} {number : Nat}
    (atEnd : (stores number).sequence.IsAtEnd) (steps : List (Nat × Step)) :
    storesAfter timeout stores steps number = stores number := by
  induction steps generalizing stores with
  | nil => rfl
  | cons first rest ih =>
      obtain ⟨other, step⟩ := first
      have kept : stores.set other (step.run timeout (stores other)).store number =
          stores number := by
        rw [Stores.set]
        split
        · rename_i same
          subst same
          exact store_run_of_isAtEnd atEnd step
        · rfl
      rw [storesAfter, ih (by rwa [kept]), kept]

/-! ## Refusals -/

/-- A response that tells of a failure, and not of which one. -/
def TellsOfFailure (response : Http.Response) : Prop :=
  response.status = 500 ∧
    response.body = "\x7b\"error\":\"internal server error\"\x7d"

/-- Later, URLs are told the codes that a store has for them, and these lead to the URLs that
it has under them. -/
def Honours (timeout : Nat) (later store : MemoryStore) : Prop :=
  (∀ url code, store.codes[url]? = some code → ∀ request, AsksFor request url →
    Tells (serve gatewaySite timeout later request).response url code.text) ∧
  (∀ (code : ShortCode) (url : String), store.urls[code.text]? = some url →
    ∀ request, GoesTo request code.text →
      LeadsTo (serve gatewaySite timeout later request).response url)

theorem honours_self (positive : 0 < timeout) (store : MemoryStore) :
    Honours timeout store store := by
  constructor
  · intro url code known request asks
    apply tells_of_asksFor positive asks
    exact congrArg Outcome.answer (MemoryStore.shorten_of_known known)
  · intro code url found request goes
    apply leadsTo_of_goesTo positive goes
    change store.resolve code.text = .ok url
    rw [MemoryStore.resolve, found]

/-- A URL is refused exactly if it is new and the sequence is at its end, and the sequence
never starts again.  A refusal writes nothing, neither in the end nor on the way.  A request
for a URL that is refused is told of a failure, all steps after it are answered as if there
had been no such request, and whatever they are, URLs are told their codes and codes lead
to their URLs as before. -/
theorem refusal_leaves_no_trace {timeout : Nat} (positive : 0 < timeout)
    (stores : Stores MemoryStore) (number : Nat) (url : String) :
    let store := stores number
    ((∃ failure, (store.shorten url).answer = .error failure) ↔
        url ∉ store.codes ∧ store.sequence.current.toNat = 2 ^ 64 - 1) ∧
      ((store.shorten url).store.allocated.toNat = store.allocated.toNat ∨
        (store.shorten url).store.allocated.toNat = store.allocated.toNat + 1) ∧
      ∀ failure, (store.shorten url).answer = .error failure →
        (store.shorten url).store = store ∧
        Concurrent.Stage.advance store (.entered (.shorten url)) =
          { answer := .unknown url, store, events := [] } ∧
        Concurrent.Stage.advance store (.unknown url) =
          { answer := .settled (.exhausted failure), store, events := [] } ∧
        ∀ request, AsksFor request url →
          let step := (number, Step.request .gateway (.ok request))
          (∃ response entries, TellsOfFailure response ∧ ∀ steps,
            run timeout stores (step :: steps) =
              ({ answer := .response response, allocated := store.allocated }, entries) ::
                run timeout stores steps) ∧
          ∀ steps, Honours timeout (storesAfter timeout stores (step :: steps) number) store := by
  intro store
  refine ⟨MemoryStore.exists_answer_error_iff, MemoryStore.toNat_allocated_shorten store url, ?_⟩
  intro failure refused
  have full : store.IsFullFor url := MemoryStore.exists_answer_error_iff.mp ⟨failure, refused⟩
  have looked := Concurrent.Stage.advance_unknown (Std.HashMap.getElem?_eq_none full.1)
  have stopped := Sequence.nextCode_of_not_lt (Sequence.isAtEnd_iff.mp full.2)
  refine ⟨MemoryStore.store_shorten_of_isFullFor full, looked,
    Concurrent.Stage.advance_exhausted stopped, ?_⟩
  intro request asks step
  obtain ⟨response, kept⟩ := serve_of_full positive asks full
  constructor
  · refine ⟨Failure.internal.response.withLength, (step.2.run timeout store).entries, ?_, ?_⟩
    · exact ⟨Http.Response.status_withLength _,
        (Http.Response.body_withLength _).trans Failure.internal.body_response⟩
    · intro steps
      -- The store that the request leaves is the one under its number already.
      have unchanged : (step.2.run timeout (stores number)).store = stores number := kept
      rw [← response]
      exact run_of_kept unchanged steps
  · intro steps
    have same : storesAfter timeout stores (step :: steps) number = store :=
      storesAfter_of_isAtEnd full.2 (step :: steps)
    rw [same]
    exact honours_self positive store

/-- The last code has been issued for a URL, and another URL is asked for. -/
theorem refusal_leaves_no_trace_at_end :
    let store : MemoryStore :=
      { sequence := { last := 0xFFFFFFFFFFFFFFFF }
        urls := (∅ : Std.HashMap String String).insert "1" "b"
        codes := (∅ : Std.HashMap String ShortCode).insert "b" (ShortCode.ofNumber 1) }
    let stores : Stores MemoryStore := fun _ => store
    let step := (0, Step.request .gateway (.ok (requestFor "a")))
    0 < 15000 ∧ (store.shorten "a").answer = .error {} ∧ AsksFor (requestFor "a") "a" ∧
      (store.shorten "a").store = store ∧
      ∃ response entries, TellsOfFailure response ∧ ∀ steps,
        run 15000 stores (step :: steps) =
          ({ answer := .response response, allocated := 0xFFFFFFFFFFFFFFFF }, entries) ::
            run 15000 stores steps := by
  intro store stores step
  have new : "a" ∉ store.codes := by simp [store]
  have refused : (store.shorten "a").answer = .error {} := by
    rw [MemoryStore.shorten_of_isFullFor ⟨new, rfl⟩]
  have asks : AsksFor (requestFor "a") "a" := asksFor_requestFor (by decide)
  obtain ⟨-, -, onRefusal⟩ := refusal_leaves_no_trace (by decide : 0 < 15000) stores 0 "a"
  obtain ⟨kept, -, -, others⟩ := onRefusal {} refused
  exact ⟨by decide, refused, asks, kept, (others _ asks).1⟩

end Shortlink.Session
