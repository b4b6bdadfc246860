import Shortlink.Program
import Shortlink.Proofs.CommandLine.Soundness
import Shortlink.Proofs.Gateway.Redirect
import Shortlink.Proofs.Gateway.Tracing

/-!
# Deadlines and panics

A handler that takes its whole time is given up, and nothing is left of what it might have
done.  One that is quicker has its answer sent, or its panic turned into a failure that says
nothing of the panic.  Neither is felt by the requests that follow, and the gateway is never
set up in such a way that it gives up one of its own handlers.
-/

namespace Shortlink.Gateway

open Http (Request Response)

section Sites

variable {σ : Type} {site : Site σ} {timeout : Nat} {request : Request} {resource : Resource σ}

/-! ## One request -/

theorem complete_of_handled (handled : site.dispatch request = .handled resource)
    (response : Response) :
    (site.dispatch request).complete request response = complete request response := by
  rw [handled]
  rfl

/-- A handler that takes its whole time is given up. -/
theorem serve_of_late (handled : site.dispatch request = .handled resource) {store : σ}
    (late : timeout ≤ (resource.handle store request).delay) :
    (serve site timeout store request).response = complete request timedOut ∧
      (serve site timeout store request).store = store ∧
      (serve site timeout store request).entries =
        Log.during (spanOf request) [.requestStarted, .requestFinished 408] := by
  have status : (complete request timedOut).status = 408 := status_complete request timedOut
  have work : ((site.dispatch request).work store request).within timeout store =
      { delay := timeout, ending := .answer timedOut, store, events := [] } := by
    rw [handled]
    exact Work.within_of_le late store
  unfold serve
  dsimp only
  rw [work, complete_of_handled handled]
  refine ⟨rfl, rfl, ?_⟩
  change Log.during _ ([.requestStarted] ++ responseEvents (complete request timedOut)) = _
  rw [responseEvents, status]
  rfl

/-- A handler that is quicker has its answer sent, or its panic turned into a failure. -/
theorem response_of_quick (handled : site.dispatch request = .handled resource) {store : σ}
    (quick : (resource.handle store request).delay < timeout) :
    (serve site timeout store request).response =
      complete request (resource.handle store request).ending.recover.1 := by
  simp only [serve, handled, Dispatch.work, Work.within_of_lt quick]
  rfl

/-! ## Handlers that always do the same -/

/-- The handlers of a site take the same time and end in the same way whatever is in the
store. -/
def Site.IsSteady (site : Site σ) : Prop :=
  ∀ pieces resource, site pieces = some resource → ∀ store other request,
    (resource.handle store request).delay = (resource.handle other request).delay ∧
      (resource.handle store request).ending = (resource.handle other request).ending

theorem Work.ending_within_congr {work other : Work σ} (delay : work.delay = other.delay)
    (ending : work.ending = other.ending) (timeout : Nat) (store otherStore : σ) :
    (work.within timeout store).ending = (other.within timeout otherStore).ending := by
  by_cases late : timeout ≤ work.delay
  · rw [Work.within_of_le late, Work.within_of_le (delay ▸ late)]
  · have quick : work.delay < timeout := Nat.lt_of_not_le late
    rw [Work.within_of_lt quick, Work.within_of_lt (delay ▸ quick), ending]

/-- What has become of the store does not matter to steady handlers. -/
theorem Site.IsSteady.response_eq (steady : site.IsSteady) (timeout : Nat) (store other : σ)
    (request : Request) :
    (serve site timeout store request).response = (serve site timeout other request).response := by
  have same : ((site.dispatch request).work store request).delay =
        ((site.dispatch request).work other request).delay ∧
      ((site.dispatch request).work store request).ending =
        ((site.dispatch request).work other request).ending := by
    unfold Site.dispatch
    split
    · exact ⟨rfl, rfl⟩
    · rename_i resource found
      split
      · exact steady _ resource found store other request
      · exact ⟨rfl, rfl⟩
  simp only [serve]
  rw [Work.ending_within_congr same.1 same.2]

theorem isSteady_probeSite : (probeSite : Site σ).IsSteady := by
  intro pieces resource found store other request
  unfold probeSite at found
  split at found
  case h_6 piece =>
    split at found
    · contradiction
    · obtain rfl := Option.some.inj found
      change (wait piece store).delay = (wait piece other).delay ∧
        (wait piece store).ending = (wait piece other).ending
      unfold wait
      split
      · exact ⟨rfl, rfl⟩
      · split <;> exact ⟨rfl, rfl⟩
  case h_7 => contradiction
  all_goals
    obtain rfl := Option.some.inj found
    exact ⟨rfl, rfl⟩

/-- Each request to steady handlers is answered as if it were the first one. -/
theorem responses_of_isSteady {visits : List (Visit σ)}
    (steady : ∀ visit ∈ visits, visit.site.IsSteady) (store fresh : σ) :
    (encounters store visits).map (·.reply.response) =
      visits.map fun visit => (serve visit.site visit.timeout fresh visit.request).response := by
  induction visits generalizing store with
  | nil => rfl
  | cons visit rest ih =>
      obtain ⟨first, others⟩ := List.forall_mem_cons.mp steady
      rw [encounters, List.map_cons, List.map_cons, ih others]
      exact congrArg (· :: _) (first.response_eq visit.timeout store fresh visit.request)

end Sites

/-! ## The gateway -/

section Gateway

variable {σ : Type} [KeyStore σ] {store : σ} {request : Request} {timeout : Nat}

/-- The statuses of the gateway when it has time for a request. -/
def gatewayStatuses : List Nat :=
  [200, 302, 400, 404, 405, 413, 500]

theorem Results.status_mem {response : Response} (results : Results store request response) :
    response.status ∈ gatewayStatuses := by
  cases results with
  | alive => decide
  | shortened url code => exact (by decide : 200 ∈ gatewayStatuses)
  | redirected led => exact (by decide : 302 ∈ gatewayStatuses)
  | failed failure =>
      have among : [400, 404, 500] ⊆ gatewayStatuses := by decide
      exact among failure.status_mem
  | refused refusal =>
      have among : [400, 413] ⊆ gatewayStatuses := by decide
      exact among refusal.status_mem
  | notAllowed => decide
  | nothing => decide

/-- A request that is given any time at all is not given up by the gateway. -/
theorem status_serve_mem (positive : 0 < timeout) (store : σ) (request : Request) :
    (serve gatewaySite timeout store request).response.status ∈ gatewayStatuses := by
  rw [response_serve positive, status_dispatch_complete]
  exact (results_work store request).status_mem

end Gateway

/-! ## The law of deadlines -/

/-- A handler that takes its whole time is given up without a trace, whatever it would have
ended with.  Otherwise its answer is sent, or its panic becomes a failure that is the same for
all panics.  Requests to handlers that always do the same are answered as if each were the
first one.  However the program is set up, none of its own responses is given up. -/
theorem serve_by_deadline :
    (∀ {σ : Type} (site : Site σ) (timeout : Nat) (store : σ) (request : Request)
        (resource : Resource σ), site.dispatch request = .handled resource →
      let work := resource.handle store request
      let reply := serve site timeout store request
      (timeout ≤ work.delay →
        reply.response.status = 408 ∧ reply.response.body = "" ∧ reply.store = store ∧
          reply.entries = Log.during (spanOf request) [.requestStarted, .requestFinished 408]) ∧
      (work.delay < timeout →
        (∀ response, work.ending = .answer response →
          reply.response.status = response.status ∧
            reply.response.body = sentBody request response.body) ∧
        ∀ payload, work.ending = .panic payload →
          reply.response = complete request (failureResponse 500 "internal server error") ∧
            reply.response.status = 500 ∧
            reply.response.body =
              sentBody request "\x7b\"error\":\"internal server error\"\x7d")) ∧
    (∀ {σ : Type} (visits : List (Visit σ)), (∀ visit ∈ visits, visit.site.IsSteady) →
      ∀ store fresh : σ, (encounters store visits).map (·.reply.response) =
        visits.map fun visit => (serve visit.site visit.timeout fresh visit.request).response) ∧
    ∀ environment arguments (setup : Program.Setup),
      CommandLine.parse environment arguments = .ok setup.settings →
        ∀ store request, (setup.serve store request).response.status ≠ 408 := by
  refine ⟨?_, ?_, ?_⟩
  · intro σ site timeout store request resource handled work reply
    constructor
    · intro late
      obtain ⟨response, kept, entries⟩ := serve_of_late handled late
      refine ⟨?_, ?_, kept, entries⟩
      · rw [show reply.response = _ from response, status_complete]
        rfl
      · rw [show reply.response = _ from response, body_complete]
        exact ite_self _
    · intro quick
      have response : reply.response = complete request work.ending.recover.1 :=
        response_of_quick handled quick
      constructor
      · intro answer ends
        rw [response, ends, status_complete, body_complete]
        exact ⟨rfl, rfl⟩
      · intro payload ends
        rw [response, ends, status_complete, body_complete]
        exact ⟨rfl, rfl, rfl⟩
  · intro σ visits steady store fresh
    exact responses_of_isSteady steady store fresh
  · intro environment arguments setup parsed store request gaveUp
    have atLeast : 1 ≤ setup.settings.requestTimeout.toNat :=
      UInt64.le_iff_toNat_le.mp (CommandLine.requestTimeout_pos_of_parse parsed)
    have positive : 0 < setup.gateway.timeoutMilliseconds :=
      Nat.mul_pos atLeast (by decide)
    have listed := status_serve_mem positive store request
    rw [Program.Setup.serve] at gaveUp
    rw [gaveUp] at listed
    contradiction

/-- A panic after 50 milliseconds, under a timeout that comes first, under one that comes
later and under one that comes at that very moment, and the shortest timeout that the program
can be given. -/
theorem serve_by_deadline_of_slow_panic :
    let request : Request := { target := { path := "/slow-panic" } }
    let resource : Resource MemoryStore :=
      { verb := .get, handle := fun store _ => (Work.panic store (.fixed "late") []).after 50 }
    let visit (timeout : Nat) : Visit MemoryStore :=
      { site := probeSite, timeout, request, readsBody := true }
    let visits := [visit 20, visit 51, visit 50]
    let settings : CommandLine.Settings :=
      { port := 80, host := .unspecified, requestTimeout := 1, logFormat := .json,
        logLevel := "info" }
    let filter : Log.Filter :=
      { plain := []
        spanned := []
        plainMaximum := .off
        spannedMaximum := .off }
    let setup : Program.Setup :=
      { settings, logger := { format := .json, filter, colours := false } }
    (probeSite.dispatch request = .handled resource ∧
      50 ≤ (resource.handle .empty request).delay ∧
      (serve probeSite 50 MemoryStore.empty request).response.status = 408 ∧
      (resource.handle .empty request).delay < 51 ∧
      (resource.handle .empty request).ending = .panic (.fixed "late") ∧
      (serve probeSite 51 MemoryStore.empty request).response.status = 500) ∧
    ((∀ visit ∈ visits, visit.site.IsSteady) ∧
      (encounters .empty visits).map (·.reply.response.status) = [408, 500, 408]) ∧
    CommandLine.parse (fun _ => none) ["--port", "80", "--request-timeout-secs=1"] =
        .ok setup.settings ∧
      (setup.serve .empty request).response.status ≠ 408 := by
  intro request resource visit visits settings filter setup
  obtain ⟨one, run, program⟩ := serve_by_deadline
  have cut : pieces request.target.path = ["", "slow-panic"] := by
    decide
  have handled : probeSite.dispatch request = .handled resource := by
    rw [Site.dispatch, cut]
    rfl
  have late : 50 ≤ (resource.handle .empty request).delay := Nat.le_refl 50
  have quick : (resource.handle .empty request).delay < 51 := Nat.lt_succ_self 50
  have early : 20 ≤ (resource.handle .empty request).delay := by decide
  have gaveUpEarly := ((one probeSite 20 .empty request resource handled).1 early).1
  have gaveUp := ((one probeSite 50 .empty request resource handled).1 late).1
  have failed := (((one probeSite 51 .empty request resource handled).2 quick).2 _ rfl).2.1
  have steady : ∀ visit ∈ visits, visit.site.IsSteady := by
    simp [visits, visit, isSteady_probeSite]
  have answers := congrArg (List.map Http.Response.status) (run visits steady .empty .empty)
  have parsed : CommandLine.parse (fun _ => none) ["--port", "80", "--request-timeout-secs=1"] =
      .ok setup.settings := by
    rfl
  refine ⟨⟨handled, late, gaveUp, quick, rfl, failed⟩, ⟨steady, ?_⟩, parsed,
    program _ _ setup parsed .empty request⟩
  rw [List.map_map, List.map_map] at answers
  refine answers.trans ?_
  simp only [visits, visit, List.map_cons, List.map_nil, Function.comp_apply, gaveUpEarly, failed,
    gaveUp]

end Shortlink.Gateway
