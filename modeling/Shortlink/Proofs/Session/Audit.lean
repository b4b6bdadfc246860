import Shortlink.Proofs.Concurrent.Rest
import Shortlink.Proofs.Gateway.Receipts
import Shortlink.Proofs.Gateway.Recovery
import Shortlink.Session

/-!
# The audit of a session

Whatever steps are taken on one new store, one after the other or by many threads at once, the
log is a complete audit of it: the receipts that can be read from the log tell how often a URL
has been shortened and all that the store holds in the end.
-/

namespace Shortlink

open Gateway Session
open Concurrent (Explains Machine)
open Json (Data IsDocumentOf)
open Log (Logger Moment PlainDirective Receipt)

/-! ## Steps -/

namespace Session

/-- How many URLs have been told a code, one after the other, up to the first failure. -/
def toldCodes (store : MemoryStore) (urls : List String) : Nat :=
  (shortenAll [] store [] urls).answer.1.length

/-- How often a step has shortened a URL: for each code that a call has answered, and for each
request to shorten that is told one. -/
def Step.completed (timeout : Nat) (store : MemoryStore) : Step → Nat
  | .call action => (action.run store).answer.isCode.toNat
  | .fill stem first count =>
      toldCodes store ((List.range' first count).map fun number => stem ++ toString number)
  | .clients count urls => toldCodes store ((List.range count).flatMap (clientOrder urls))
  | .request _ (.error _) => 0
  | .request host (.ok message) =>
      match host with
      | .gateway => completions message (serve gatewaySite timeout store message).response
      | .probe => 0

end Session

/-- Clients are handed the receipts of the URLs that they shorten, and none for looking up the
codes. -/
theorem serveClients_eq (store : MemoryStore) (count : Nat) (urls : List String) :
    let shortened := shortenAll [] store [] ((List.range count).flatMap (clientOrder urls))
    (serveClients store count urls).store = shortened.store ∧
      Receipt.ofEvents (serveClients store count urls).events =
        Receipt.ofEvents shortened.events := by
  intro shortened
  unfold serveClients
  dsimp only
  split
  · exact ⟨rfl, rfl⟩
  · refine ⟨rfl, ?_⟩
    rw [Receipt.ofEvents_append]
    refine (congrArg (_ ++ ·) (List.filterMap_eq_nil_iff.mpr ?_)).trans (List.append_nil _)
    intro event member
    obtain ⟨looked, isLooked, reported⟩ := List.mem_flatMap.mp member
    obtain ⟨_, -, rfl⟩ := List.mem_map.mp isLooked
    rw [List.mem_singleton.mp reported]
    rfl

namespace MemoryStore.IsToldBy

variable {store : MemoryStore} {receipts : List Receipt} {completed : Nat}

/-- Shortening URLs one after the other hands out one receipt for each code. -/
theorem shortenAll {codes : List ShortCode} {reported : List (List Log.Event)}
    (told : store.IsToldBy (receipts ++ Receipt.ofEvents reported.reverse.flatten)
      (completed + codes.length)) (urls : List String) :
    let outcome := Session.shortenAll codes store reported urls
    outcome.store.IsToldBy (receipts ++ Receipt.ofEvents outcome.events)
      (completed + outcome.answer.1.length) := by
  -- The invariant is about the codes and the events gathered so far, newest first.
  induction urls generalizing store codes reported with
  | nil => exact told
  | cons url rest ih =>
      have first := told.shorten url
      have grown : receipts ++
          Receipt.ofEvents ((store.shorten url).events :: reported).reverse.flatten =
          receipts ++ Receipt.ofEvents reported.reverse.flatten ++
            Receipt.ofEvents (store.shorten url).events := by
        rw [List.reverse_cons, List.flatten_append, List.flatten_singleton,
          Receipt.ofEvents_append, List.append_assoc]
      rw [← grown] at first
      rw [Session.shortenAll]
      cases answered : (KeyStore.shorten store url).answer with
      | ok code =>
          have same : (store.shorten url).answer = .ok code := answered
          rw [same] at first
          exact ih first
      | error failure =>
          have same : (store.shorten url).answer = .error failure := answered
          rw [same] at first
          exact first

/-- Every step hands out the receipts of the store. -/
theorem step (told : store.IsToldBy receipts completed) (timeout : Nat) (step : Step) :
    let result := step.run timeout store
    result.store.IsToldBy (receipts ++ Receipt.ofEntries result.entries)
      (completed + step.completed timeout store) := by
  intro result
  have start : store.IsToldBy (receipts ++ Receipt.ofEvents [].reverse.flatten)
      (completed + ([] : List ShortCode).length) := told.silent
  cases step with
  | call action =>
      have entries : Receipt.ofEntries result.entries =
          Receipt.ofEvents (action.run store).events := Receipt.ofEntries_outside _
      rw [entries]
      exact told.run action
  | fill stem first count =>
      have entries : Receipt.ofEntries result.entries = _ := Receipt.ofEntries_outside _
      rw [entries]
      exact start.shortenAll _
  | clients count urls =>
      obtain ⟨left, handed⟩ := serveClients_eq store count urls
      have after : result.store = _ := left
      have entries : Receipt.ofEntries result.entries = _ :=
        (Receipt.ofEntries_outside _).trans handed
      rw [after, entries]
      exact start.shortenAll _
  | request host message =>
      cases message with
      | error failure => exact told.silent
      | ok message =>
          have entries : Receipt.ofEntries result.entries =
              Receipt.ofEntries (serve host.site timeout store message).entries := by
            change Receipt.ofEntries (_ ++ _) = _
            rw [Receipt.ofEntries_append, ofEntries_entriesAtEnd_serve, List.append_nil]
          rw [entries]
          cases host with
          | gateway => exact isToldBy_serve told timeout message
          | probe =>
              have after : result.store = store := store_serve_probe timeout store message
              have silent := ofEntries_serve_probe timeout store message
              rw [after]
              exact silent.symm ▸ told.silent

end MemoryStore.IsToldBy

/-! ## Sessions -/

namespace Session

/-- What steps on one new store come to: the store, what has been reported and how often a URL
has been shortened. -/
inductive Reaches : MemoryStore → List Log.Entry → Nat → Prop
  /-- The store is new. -/
  | start : Reaches .empty [] 0
  /-- A step is taken. -/
  | step {store : MemoryStore} {log : List Log.Entry} {completed : Nat} (timeout : Nat)
      (step : Step) : Reaches store log completed →
        Reaches (step.run timeout store).store (log ++ (step.run timeout store).entries)
          (completed + step.completed timeout store)
  /-- A request is sent, and the body of its response is not read. -/
  | unread {store : MemoryStore} {log : List Log.Entry} {completed : Nat} (timeout : Nat)
      (request : Http.Request) : Reaches store log completed →
        Reaches (serve gatewaySite timeout store request).store
          (log ++ (serve gatewaySite timeout store request).entries)
          (completed + completions request (serve gatewaySite timeout store request).response)
  /-- Threads make calls until all of them are at rest. -/
  | threads {store : MemoryStore} {log : List Log.Entry} {completed : Nat} {ι : Type}
      [DecidableEq ι] (programs : ι → List Call) (schedule : List ι) :
      Reaches store log completed → (Machine.run store programs schedule).IsAtRest →
        Reaches (Machine.run store programs schedule).store
          (log ++ Log.outside (Machine.run store programs schedule).events)
          (completed +
            (Machine.run store programs schedule).answers.countP Call.Answer.isCode)

/-- The receipts in the log are those of the store. -/
theorem Reaches.isToldBy {store : MemoryStore} {log : List Log.Entry} {completed : Nat}
    (reaches : Reaches store log completed) :
    store.IsToldBy (Receipt.ofEntries log) completed := by
  induction reaches with
  | start => exact MemoryStore.isToldBy_empty
  | step timeout step _ ih =>
      rw [Receipt.ofEntries_append]
      exact ih.step timeout step
  | unread timeout request _ ih =>
      rw [Receipt.ofEntries_append]
      exact isToldBy_serve ih timeout request
  | threads programs schedule _ rest ih =>
      rw [Receipt.ofEntries_append, Receipt.ofEntries_outside]
      exact ih.machine programs schedule rest

end Session

/-- Lines are documents, each of which can be read in one way only, and the receipts among them
are a complete audit of a store. -/
def MemoryStore.IsAuditedBy (store : MemoryStore) (lines : List String) (completed : Nat) : Prop :=
  ∃ documents : List Data,
    List.Forall₂ (fun line document => ∀ data,
      IsDocumentOf (Utf8.ofString line) data ↔ data = document) lines documents ∧
    (∀ document ∈ documents, ∀ message ∈ Receipt.messages,
      Receipt.message? document = some message → (Receipt.ofDocument? document).isSome) ∧
    IsAudit (documents.filterMap Receipt.ofDocument?) store completed

namespace Session

/-- Whatever is done with one new store, by calls, by requests and by many threads at once, in
whatever turns: a log of documents that holds back nothing of the store is a complete audit of
it. -/
theorem transcript_audits_store {store : MemoryStore} {log : List Log.Entry} {completed : Nat}
    (reaches : Reaches store log completed) {logger : Logger} (json : logger.format = .json)
    (enables : logger.filter.EnablesFor .debug "portal_storage") (clock : Nat → Moment) :
    let timed := log.mapIdx fun place entry => (clock place, entry)
    store.IsAuditedBy (Text.lines (logger.transcript timed)) completed := by
  intro timed
  have entries : timed.map Prod.snd = log := by
    simp only [timed, List.mapIdx_eq_zipIdx_map, List.map_map]
    exact List.zipIdx_map_fst 0 log
  obtain ⟨documents, written, named, receipts⟩ := Receipt.exists_documents json enables timed
  refine ⟨documents, written, named, ?_⟩
  rw [receipts, entries]
  exact reaches.isToldBy.isAudit

/-- A URL is shortened, and then two threads shorten it and another one. -/
theorem transcript_audits_store_of_two_threads :
    let filter : Log.Filter :=
      { plain := [{ target? := some "portal_storage", field? := none, threshold := .upTo .debug }]
        spanned := []
        plainMaximum := .upTo .debug
        spannedMaximum := .off }
    let logger : Logger := { filter, format := .json, colours := false }
    let first := (Step.call (.shorten "a")).run 1 MemoryStore.empty
    let programs (thread : Bool) : List Call := if thread then [.shorten "a"] else [.shorten "b"]
    Log.Filter.parse "portal_storage=debug" = .ok filter ∧ logger.format = .json ∧
      logger.filter.EnablesFor .debug "portal_storage" ∧
      ∃ schedule : List Bool,
        let machine := Machine.run first.store programs schedule
        let log := first.entries ++ Log.outside machine.events
        Reaches machine.store log 3 ∧ machine.store.allocated.toNat = 2 ∧
          ∀ clock : Nat → Moment,
            machine.store.IsAuditedBy (Text.lines (logger.transcript
              (log.mapIdx fun place entry => (clock place, entry)))) 3 := by
  intro filter logger first programs
  have enables : filter.EnablesFor .debug "portal_storage" := by
    refine Log.Filter.enablesFor_of_admits rfl fun target filed fields => ?_
    have applies : PlainDirective.appliesTo
        { target? := some "portal_storage", field? := none, threshold := .upTo .debug }
        { level := .debug, target, fields? := some fields } = true := by
      simp [PlainDirective.appliesTo, filed]
    simp only [Log.Filter.admits, filter, List.find?_cons_of_pos, applies]
    rfl
  have alone := MemoryStore.records_empty.run (.shorten "a") (by decide)
  have other := alone.2.run (.shorten "b") (by decide)
  have again := other.2.run (.shorten "a") (by decide)
  have start : Explains first.store programs (Machine.run first.store programs []) [] :=
    Explains.empty first.store programs
  obtain ⟨middle, issued, issuedEq, middleExplains, middleFree, middleThreads, middleHistory⟩ :=
    start.exists_run_completed false 0 rfl rfl rfl rfl
  obtain ⟨last, found, foundEq, explains, free, threads, history⟩ :=
    middleExplains.exists_run_completed true 0 middleFree (by rw [middleThreads]; rfl)
      (by rw [middleThreads]; rfl) rfl
  have rest : (Machine.run first.store programs last).IsAtRest := by
    intro thread
    rw [threads, middleThreads]
    cases thread <;> rfl
  have answers : (Machine.run first.store programs last).answers = [issued, found] := by
    rw [Machine.answers, history, middleHistory]
    rfl
  have codes : issued.isCode = true ∧ found.isCode = true := by
    rw [issuedEq, foundEq]
    exact ⟨congrArg Call.Answer.isCode other.1, congrArg Call.Answer.isCode again.1⟩
  have one : (Step.call (.shorten "a")).completed 1 MemoryStore.empty = 1 :=
    congrArg (fun answer : Call.Answer => answer.isCode.toNat) alone.1
  have reaches := (Reaches.start.step 1 (.call (.shorten "a"))).threads programs last rest
  rw [answers, one, List.countP_cons_of_pos codes.1, List.countP_cons_of_pos codes.2] at reaches
  refine ⟨rfl, rfl, enables, last, reaches, ?_, transcript_audits_store reaches rfl enables⟩
  rw [(explains.free free).1]
  exact again.2.counted

end Session

end Shortlink
