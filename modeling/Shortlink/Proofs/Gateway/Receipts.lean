import Shortlink.Proofs.Gateway.Shorten
import Shortlink.Proofs.Gateway.Tracing
import Shortlink.Proofs.Store.Trail

/-!
# Receipts of requests

Of all that is reported of a request, only its handler can hand out receipts.  Behind the
gateway these are the receipts of the store, and one is handed out exactly if the request is
one to shorten and is told a code.
-/

namespace Shortlink.Gateway

open Http (Request Response)
open Log (Receipt)

instance (request : Request) : Decidable (IsShorten request) :=
  inferInstanceAs (Decidable (_ ∧ _))

/-- How many URLs a request has shortened, by its response. -/
def completions (request : Request) (response : Response) : Nat :=
  if IsShorten request ∧ response.status = 200 then 1 else 0

theorem completions_of_not_isShorten {request : Request} (other : ¬IsShorten request)
    (response : Response) : completions request response = 0 :=
  if_neg fun told => other told.1

theorem completions_of_status_ne (request : Request) {response : Response}
    (failed : response.status ≠ 200) : completions request response = 0 :=
  if_neg fun told => failed told.2

theorem completions_of_status_eq {request : Request} (isShorten : IsShorten request)
    {response : Response} (fine : response.status = 200) : completions request response = 1 :=
  if_pos ⟨isShorten, fine⟩

theorem completions_withLength (request : Request) (response : Response) :
    completions request response.withLength = completions request response := by
  rw [completions, Http.Response.status_withLength, completions]

/-! ## Layers -/

section Layers

variable {σ : Type} (site : Site σ) (timeout : Nat) (store : σ) (request : Request)

/-- The layers around a handler hand out no receipts. -/
theorem ofEntries_serve :
    Receipt.ofEntries (serve site timeout store request).entries =
      Receipt.ofEvents
        (((site.dispatch request).work store request).within timeout store).events := by
  let encounter : Encounter σ := { site, timeout, request, readsBody := true, store }
  have recovery : Receipt.ofEvents encounter.recovery = [] := by
    rw [Receipt.ofEvents, Encounter.recovery, List.filterMap_map]
    exact List.filterMap_eq_nil_iff.mpr fun _ _ => rfl
  have failure : Receipt.ofEvents encounter.failure = [] := by
    unfold Encounter.failure
    dsimp only
    split <;> rfl
  have entries : (serve site timeout store request).entries = _ := encounter.entries_reply
  rw [entries, Receipt.ofEntries_during, Receipt.ofEvents_append, failure, Receipt.ofEvents_append,
    Receipt.ofEvents_append, recovery, List.append_nil, List.append_nil]
  exact List.append_nil _

theorem ofEntries_entriesAtEnd_serve :
    Receipt.ofEntries (serve site timeout store request).entriesAtEnd = [] := by
  rcases entriesAtEnd_serve site timeout store request with none | one
  · rw [none]
    rfl
  · rw [one]
    rfl

/-- Work that is given up hands out no receipts. -/
theorem ofEvents_within {work : Work σ} (silent : Receipt.ofEvents work.events = []) :
    Receipt.ofEvents (work.within timeout store).events = [] := by
  rw [Work.within]
  split
  · rfl
  · exact silent

end Layers

theorem ofEvents_refusal (refusal : Refusal) : Receipt.ofEvents [refusal.event] = [] :=
  rfl

/-- The probe hands out no receipts. -/
theorem ofEntries_serve_probe {σ : Type} (timeout : Nat) (store : σ) (request : Request) :
    Receipt.ofEntries (serve probeSite timeout store request).entries = [] := by
  rw [ofEntries_serve]
  refine ofEvents_within timeout store ?_
  unfold Site.dispatch
  split
  · rfl
  · rename_i resource found
    split
    · rw [Dispatch.work]
      rcases events_of_probe found store request with none | ⟨refusal, one⟩
      · rw [none]
        rfl
      · rw [one]
        exact ofEvents_refusal refusal
    · rfl

/-! ## Handlers -/

variable {request : Request} {store : MemoryStore} {receipts : List Receipt} {completed : Nat}

/-- A request that is not one to shorten is handed no receipts. -/
theorem ofEvents_work_of_not_isShorten (other : ¬IsShorten request) (store : MemoryStore) :
    Receipt.ofEvents ((gatewaySite.dispatch request).work store request).events = [] := by
  unfold Site.dispatch
  split
  · rfl
  · rename_i resource found
    split
    · rename_i asked
      rcases gatewaySite_eq_some found with rfl | ⟨cut, rfl⟩ | ⟨piece, -, rfl⟩
      · rfl
      · exact absurd ⟨of_decide_eq_true asked, path_eq_shorten cut⟩ other
      · simp only [Dispatch.work, redirect]
        split
        · exact ofEvents_refusal _
        · unfold redirectKey
          dsimp only
          repeat' split
          all_goals rfl
    · rfl

/-- Who asks for a URL is handed the receipt of the store, and who is turned down is handed
none. -/
theorem isToldBy_shorten (told : store.IsToldBy receipts completed)
    (isShorten : IsShorten request) :
    let work := shorten store request
    work.store.IsToldBy (receipts ++ Receipt.ofEvents work.events)
      (completed + completions request work.ending.recover.1) := by
  have kept {response : Response} (failed : response.status ≠ 200) :
      store.IsToldBy (receipts ++ []) (completed + completions request response) := by
    rw [completions_of_status_ne request failed]
    exact told.silent
  intro work
  unfold work shorten
  split
  · exact kept (show 413 ≠ 200 by decide)
  · split
    · exact kept (show 400 ≠ 200 by decide)
    · rename_i url _
      have shortened := told.shorten url
      cases answered : (store.shorten url).answer with
      | ok code =>
          have one : completions request (shortenResponse url code) = 1 :=
            completions_of_status_eq isShorten rfl
          have said : Receipt.ofEvents ((store.shorten url).events ++ [.shortened url code]) =
              Receipt.ofEvents (store.shorten url).events := by
            rw [Receipt.ofEvents_append]
            exact List.append_nil _
          rw [answered, ← said] at shortened
          rw [shortenUrl_of_ok answered]
          exact one ▸ shortened
      | error failure =>
          have none : completions request Failure.internal.response = 0 :=
            completions_of_status_ne request (show 500 ≠ 200 by decide)
          rw [answered] at shortened
          rw [shortenUrl_of_error answered]
          exact none ▸ shortened

/-- A request is counted if it is one to shorten that is told a code, and hands out the receipts
of the store. -/
theorem isToldBy_serve (told : store.IsToldBy receipts completed) (timeout : Nat)
    (request : Request) :
    let reply := serve gatewaySite timeout store request
    reply.store.IsToldBy (receipts ++ Receipt.ofEntries reply.entries)
      (completed + completions request reply.response) := by
  intro reply
  have entries : Receipt.ofEntries reply.entries = _ :=
    ofEntries_serve gatewaySite timeout store request
  by_cases isShorten : IsShorten request
  · -- Without any time the store is not asked, and there is nothing to be counted.
    rcases Nat.eq_zero_or_pos timeout with rfl | positive
    · have late : reply.response.status = 408 := status_serve_zero store isShorten
      have kept : reply.store = store := store_serve_zero gatewaySite store request
      rw [entries, Work.within_of_le (Nat.zero_le _), kept,
        completions_of_status_ne request (late ▸ by decide)]
      exact told.silent
    · obtain ⟨response, left⟩ := serve_shorten positive store isShorten.1 isShorten.2
      have work : (gatewaySite.dispatch request).work store request = shorten store request := by
        rw [dispatch_shorten isShorten.1 isShorten.2]
        rfl
      have answer : reply.response = _ := response
      have after : reply.store = _ := left
      rw [entries, work, Work.within_of_lt (by rwa [delay_shorten]), answer, after,
        completions_withLength]
      exact isToldBy_shorten told isShorten
  · have kept : reply.store = store := store_serve_of_not_isShorten isShorten timeout store
    have silent := ofEvents_work_of_not_isShorten isShorten store
    rw [entries, ofEvents_within timeout store silent, kept,
      completions_of_not_isShorten isShorten]
    exact told.silent

end Shortlink.Gateway
