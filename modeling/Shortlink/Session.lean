import Shortlink.Gateway.Probe
import Shortlink.Gateway.Service
import Shortlink.Store.Call

/-!
# Sessions

A session is a run of steps, each of which works on one of any number of numbered
stores: a call, many calls at once, calls from several clients, or a request to
the gateway in front of the store.
-/

namespace Shortlink.Session

open Http (Request RequestError Response)

/-- The sites that a request can be sent to. -/
inductive Host
  /-- The gateway in front of the store. -/
  | gateway
  | probe
  deriving DecidableEq, Repr

/-- A step on one store. -/
inductive Step
  | call (call : Call)
  /-- Shorten `count` URLs that consist of a stem and a number, from `first` on. -/
  | fill (stem : String) (first count : Nat)
  /-- Let a number of clients shorten the same URLs, each in an order of its own. -/
  | clients (count : Nat) (urls : List String)
  | request (host : Host) (request : Except RequestError Request)

inductive Answer
  | call (answer : Call.Answer)
  /-- The first and the last code, if there are any. -/
  | filled (first? last? : Option ShortCode)
  /-- The codes of the distinct URLs in the order of their numbers, and whether all
  clients have seen the same ones. -/
  | clients (codes : List ShortCode) (consistent : Bool)
  | response (response : Response)
  /-- What should have been a request is none. -/
  | unsendable (error : RequestError)
  /-- The sequence was at its end. -/
  | exhausted (failure : Exhausted)
  /-- The sequence was at its end for one of several clients. -/
  | clientExhausted (failure : Exhausted)

/-- The end of a step. -/
structure Report where
  answer : Answer
  /-- How many codes the store has issued by then. -/
  allocated : UInt64

variable {σ : Type} [KeyStore σ]

/-- Shortens URLs one after the other, up to the first failure.  The codes come
back in reverse, in front of those already there. -/
def shortenAll (codes : List ShortCode) (store : σ) (events : List (List Log.Event)) :
    List String → Outcome σ (List ShortCode × Option Exhausted)
  | [] => { answer := (codes, none), store, events := events.reverse.flatten }
  | url :: urls =>
      let outcome := KeyStore.shorten store url
      match outcome.answer with
      | .ok code => shortenAll (code :: codes) outcome.store (outcome.events :: events) urls
      | .error failure =>
          { answer := (codes, some failure)
            store := outcome.store
            events := (outcome.events :: events).reverse.flatten }

/-- Fills a store with numbered URLs. -/
def fillStore (store : σ) (stem : String) (first count : Nat) : Outcome σ Answer :=
  let urls := (List.range' first count).map fun number => stem ++ toString number
  let outcome := shortenAll [] store [] urls
  { outcome with
    answer := match outcome.answer with
      | (_, some failure) => .exhausted failure
      | (codes, none) => .filled codes.getLast? codes.head? }

/-- How far the order of each client is ahead of that of the client before. -/
def clientOffset : Nat := 7

/-- The order in which a client takes the URLs. -/
def clientOrder (urls : List String) (client : Nat) : List String :=
  urls.rotateLeft (clientOffset * client)

/-- Whether a URL is what was found. -/
def leadsBack (url : String) : Except KeyError String → Bool
  | .ok found => found = url
  | .error _ => false

/-- The number of a code, as far as codes are put into order. -/
def rank (code : ShortCode) : UInt64 :=
  code.number.toOption.getD 0

/-- The codes of a list of URLs, in the order of their numbers. -/
def codesInOrder (urls : List String) (seen : List (String × ShortCode)) : List ShortCode :=
  (urls.eraseDups.filterMap fun url => List.lookup url seen).mergeSort
    fun first second => rank first ≤ rank second

/-- Lets clients shorten URLs, one client after the other, and then resolves all codes
that they have seen. -/
def serveClients (store : σ) (count : Nat) (urls : List String) : Outcome σ Answer :=
  let order := (List.range count).flatMap (clientOrder urls)
  let outcome := shortenAll [] store [] order
  match outcome.answer with
  | (_, some failure) => { outcome with answer := .clientExhausted failure }
  | (codes, none) =>
      let seen := order.zip codes.reverse
      let found := seen.map fun (url, code) =>
        (url, code, KeyStore.resolve outcome.store code.text)
      { outcome with
        answer := .clients (codesInOrder urls seen) (found.all fun (url, code, result, _) =>
          List.lookup url seen == some code && leadsBack url result)
        events := outcome.events ++ found.flatMap fun (_, _, _, events) => events }

/-- The site of a host. -/
def Host.site : Host → Gateway.Site σ
  | .gateway => Gateway.gatewaySite
  | .probe => Gateway.probeSite

/-- What comes of a step. -/
structure Result (σ : Type) where
  answer : Answer
  /-- The store afterwards. -/
  store : σ
  /-- What is reported, in order. -/
  entries : List Log.Entry

/-- The result of calls that no request has asked for. -/
def Result.ofOutcome (outcome : Outcome σ Answer) : Result σ :=
  { answer := outcome.answer, store := outcome.store, entries := Log.outside outcome.events }

/-- Takes a step.  Requests have `timeout` milliseconds. -/
def Step.run (timeout : Nat) (store : σ) : Step → Result σ
  | .call action =>
      let outcome := action.run store
      .ofOutcome { outcome with answer := .call outcome.answer }
  | .fill stem first count => .ofOutcome (fillStore store stem first count)
  | .clients count urls => .ofOutcome (serveClients store count urls)
  | .request _ (.error failure) => { answer := .unsendable failure, store, entries := [] }
  | .request host (.ok message) =>
      let reply := Gateway.serve host.site timeout store message
      { answer := .response reply.response
        store := reply.store
        entries := reply.entries ++ reply.entriesAtEnd }

/-- The store under each number. -/
abbrev Stores (σ : Type) := Nat → σ

/-- Puts a store under a number. -/
def Stores.set (stores : Stores σ) (number : Nat) (store : σ) : Stores σ :=
  fun other => if other = number then store else stores other

/-- Takes steps, each on the store with its number: a report of each, and what is
reported in the log. -/
def run (timeout : Nat) (stores : Stores σ) : List (Nat × Step) → List (Report × List Log.Entry)
  | [] => []
  | (number, step) :: steps =>
      let result := step.run timeout (stores number)
      ({ answer := result.answer, allocated := KeyStore.allocated result.store },
          result.entries) :: run timeout (stores.set number result.store) steps

end Shortlink.Session
