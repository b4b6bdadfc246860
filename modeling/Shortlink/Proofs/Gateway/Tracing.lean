import Mathlib.Data.List.Forall2
import Shortlink.Gateway.Probe
import Shortlink.Gateway.Service
import Shortlink.Proofs.Gateway.Forgery
import Shortlink.Proofs.Gateway.Serve
import Shortlink.Proofs.Log.Filtering
import Shortlink.Proofs.Log.Lines
import Shortlink.Store.Memory

/-!
# The log of a session

The layer that reports requests and responses is the outermost one, so what it reports is
what the client gets: whatever becomes of a request, the log tells once of its response, of
a failure of the server right after it, and of a panic right before it.
-/

namespace Shortlink

/-- Whether an event is reported by the layers around the handlers, of a response. -/
def Log.Event.isOfLayers : Log.Event → Bool
  | .panicRecovered _ | .requestFinished _ | .requestFailed _ => true
  | _ => false

/-- The status that an event reports of a finished request. -/
def Log.Event.finishedStatus? : Log.Event → Option Nat
  | .requestFinished status => some status
  | _ => none

theorem Log.Event.finishedStatus?_eq_none {event : Log.Event} (other : event.isOfLayers = false) :
    event.finishedStatus? = none := by
  cases event <;> first | rfl | contradiction

namespace Gateway

open Http (Request Response)

variable {σ : Type}

/-! ## Handlers that keep to their own events -/

/-- Work that reports nothing that is for the layers around the handlers to report. -/
def Work.IsQuiet (work : Work σ) : Prop :=
  ∀ event ∈ work.events, event.isOfLayers = false

/-- The handlers of a site leave it to the layers around them to report responses. -/
def Site.IsQuiet (site : Site σ) : Prop :=
  ∀ pieces resource, site pieces = some resource →
    ∀ store request, (resource.handle store request).IsQuiet

/-- Work that is given up reports nothing at all. -/
theorem Work.IsQuiet.within {work : Work σ} (quiet : work.IsQuiet) (timeout : Nat) (store : σ) :
    (work.within timeout store).IsQuiet := by
  rw [Work.within]
  split
  · exact List.forall_mem_nil _
  · exact quiet

theorem events_wait (piece : String) (store : σ) :
    (wait piece store).events = [] ∨
      ∃ refusal : Refusal, (wait piece store).events = [refusal.event] := by
  unfold wait
  split
  · exact .inr ⟨_, rfl⟩
  · split
    · exact .inr ⟨_, rfl⟩
    · exact .inl rfl

/-- The probe reports nothing but refusals. -/
theorem events_of_probe {pieces : List String} {resource : Resource σ}
    (found : probeSite pieces = some resource) (store : σ) (request : Request) :
    (resource.handle store request).events = [] ∨
      ∃ refusal : Refusal, (resource.handle store request).events = [refusal.event] := by
  unfold probeSite at found
  split at found
  case h_6 piece =>
    split at found
    · contradiction
    · obtain rfl := Option.some.inj found
      exact events_wait piece store
  case h_7 => contradiction
  all_goals
    obtain rfl := Option.some.inj found
    exact .inl rfl

/-- What a handler panics with before its time is over, if it does. -/
def Work.panicWithin? (work : Work σ) (timeout : Nat) : Option Payload :=
  match work.ending with
  | .panic payload => if work.delay < timeout then some payload else none
  | .answer _ => none

/-- A panic is recovered from if the handler gets that far in its time. -/
theorem Work.recover_within (work : Work σ) (timeout : Nat) (store : σ) :
    (work.within timeout store).ending.recover.2 =
      (work.panicWithin? timeout).toList.map fun payload => .panicRecovered payload.detail := by
  rw [within, panicWithin?]
  by_cases late : timeout ≤ work.delay
  · rw [if_pos late]
    cases work.ending with
    | answer response => rfl
    | panic payload =>
        simp only [if_neg (Nat.not_lt_of_le late)]
        rfl
  · rw [if_neg late]
    cases work.ending with
    | answer response => rfl
    | panic payload =>
        simp only [if_pos (Nat.lt_of_not_le late)]
        rfl

/-! ## One request -/

/-- The end of a body is reported, if there is a body to read. -/
theorem entriesAtEnd_serve (site : Site σ) (timeout : Nat) (store : σ) (request : Request) :
    (serve site timeout store request).entriesAtEnd = [] ∨
      (serve site timeout store request).entriesAtEnd =
        Log.during (spanOf request) [.bodySent] := by
  unfold serve
  dsimp only
  split
  · exact .inl rfl
  · exact .inr rfl

/-- A request to a site. -/
structure Visit (σ : Type) where
  site : Site σ
  /-- The milliseconds that its handlers have. -/
  timeout : Nat
  request : Request
  /-- Whether the body of the response is read until there is nothing left. -/
  readsBody : Bool

/-- A request to a site with the store that it finds. -/
structure Encounter (σ : Type) extends Visit σ where
  store : σ

namespace Encounter

variable (encounter : Encounter σ)

/-- What comes of the request. -/
def reply : Reply σ :=
  serve encounter.site encounter.timeout encounter.store encounter.request

/-- What is reported. -/
def entries : List Log.Entry :=
  encounter.reply.entries ++ if encounter.readsBody then encounter.reply.entriesAtEnd else []

/-- What the handler of the request panics with before its time is over, if there is a handler
and it does. -/
def panic? : Option Payload :=
  match encounter.site.dispatch encounter.request with
  | .handled resource =>
      (resource.handle encounter.store encounter.request).panicWithin? encounter.timeout
  | .refused _ | .unknown => none

/-- What is reported of recovering from a panic. -/
def recovery : List Log.Event :=
  encounter.panic?.toList.map fun payload => .panicRecovered payload.detail

/-- What is reported of a response that is a failure of the server. -/
def failure : List Log.Event :=
  let status := encounter.reply.response.status
  if 500 ≤ status ∧ status < 600 then [.requestFailed (classification status)] else []

/-- The log tells of the response, right before it of a panic if there was one, right after it
of a failure if it is one, and of nothing of the kind besides. -/
def IsToldBy (block : List Log.Entry) : Prop :=
  ∃ before after : List Log.Event,
    block = Log.during (spanOf encounter.request)
      (before ++ encounter.recovery ++ [.requestFinished encounter.reply.response.status] ++
        encounter.failure ++ after) ∧
      (∀ event ∈ before, event.isOfLayers = false) ∧ ∀ event ∈ after, event.isOfLayers = false

variable {encounter : Encounter σ}

/-- The work on the request, as far as it gets. -/
def work (encounter : Encounter σ) : Work σ :=
  ((encounter.site.dispatch encounter.request).work encounter.store encounter.request).within
    encounter.timeout encounter.store

theorem recovery_eq : encounter.recovery = encounter.work.ending.recover.2 := by
  rw [work, Work.recover_within, recovery, panic?]
  cases encounter.site.dispatch encounter.request <;> rfl

theorem failure_eq :
    responseEvents encounter.reply.response =
      [.requestFinished encounter.reply.response.status] ++ encounter.failure := by
  simp only [responseEvents, failure, Http.isServerError, Bool.and_eq_true, decide_eq_true_eq]

theorem entries_reply :
    encounter.reply.entries = Log.during (spanOf encounter.request)
      (.requestStarted :: encounter.work.events ++ encounter.recovery ++
        [.requestFinished encounter.reply.response.status] ++ encounter.failure) := by
  rw [recovery_eq, List.append_assoc _ [_], ← failure_eq]
  rfl

theorem grave_of_mem_recovery {event : Log.Event} (member : event ∈ encounter.recovery) :
    event.level.rank ≤ Log.Level.info.rank ∧ event.finishedStatus? = none := by
  obtain ⟨payload, -, rfl⟩ := List.mem_map.mp member
  exact ⟨Nat.le_of_ble_eq_true rfl, rfl⟩

theorem grave_of_mem_failure {event : Log.Event} (member : event ∈ encounter.failure) :
    event.level.rank ≤ Log.Level.info.rank ∧ event.finishedStatus? = none := by
  unfold failure at member
  dsimp only at member
  split at member
  · rw [List.mem_singleton.mp member]
    exact ⟨Nat.le_of_ble_eq_true rfl, rfl⟩
  · contradiction

/-- Nothing that the log has to tell is held back by a filter that lets information through. -/
theorem IsToldBy.filter {block : List Log.Entry} (told : encounter.IsToldBy block)
    {filter : Log.Filter} (enables : filter.Enables .info) :
    encounter.IsToldBy (block.filter filter.lets) := by
  obtain ⟨before, after, rfl, starts, ends⟩ := told
  let passes (event : Log.Event) :=
    filter.lets { span? := some (spanOf encounter.request), event }
  have kept {events : List Log.Event}
      (grave : ∀ event ∈ events, event.level.rank ≤ Log.Level.info.rank) :
      events.filter passes = events :=
    List.filter_eq_self.mpr fun event member => enables.lets_during (grave event member) _
  have finished (status : Nat) : List.filter passes [.requestFinished status] = [_] :=
    kept fun event member => by rw [List.mem_singleton.mp member]; exact Nat.le_refl _
  refine ⟨before.filter passes, after.filter passes, ?_, ?_, ?_⟩
  · rw [Log.during, List.filter_map]
    change Log.during _ (List.filter passes _) = _
    rw [List.filter_append, List.filter_append, List.filter_append, List.filter_append,
      kept fun event member => (grave_of_mem_recovery member).1,
      kept fun event member => (grave_of_mem_failure member).1, finished]
  · exact fun event member => starts event (List.mem_filter.mp member).1
  · exact fun event member => ends event (List.mem_filter.mp member).1

theorem IsToldBy.finished {block : List Log.Entry} (told : encounter.IsToldBy block) :
    block.filterMap (·.event.finishedStatus?) = [encounter.reply.response.status] := by
  obtain ⟨before, after, rfl, starts, ends⟩ := told
  have silent {events : List Log.Event}
      (others : ∀ event ∈ events, event.finishedStatus? = none) :
      events.filterMap Log.Event.finishedStatus? = [] :=
    List.filterMap_eq_nil_iff.mpr others
  rw [Log.during, List.filterMap_map]
  change List.filterMap Log.Event.finishedStatus? _ = _
  rw [List.filterMap_append, List.filterMap_append, List.filterMap_append, List.filterMap_append,
    silent fun event member => Log.Event.finishedStatus?_eq_none (starts event member),
    silent fun event member => Log.Event.finishedStatus?_eq_none (ends event member),
    silent fun event member => (grave_of_mem_recovery member).2,
    silent fun event member => (grave_of_mem_failure member).2]
  rfl

end Encounter

/-! ## Sessions -/

/-- Requests that come one after the other, with the stores that they find. -/
def encounters (store : σ) : List (Visit σ) → List (Encounter σ)
  | [] => []
  | visit :: rest =>
      let first : Encounter σ := { visit with store }
      first :: encounters first.reply.store rest

end Gateway

end Shortlink
