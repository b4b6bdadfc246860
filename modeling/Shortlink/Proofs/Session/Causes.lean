import Shortlink.Proofs.Gateway.Shorten
import Shortlink.Proofs.Gateway.Tracing
import Shortlink.Session

/-!
# What events tell of steps

Every event is caused by a step of a session.  The URLs, keys and codes that it names are
those that the step asks for, letter by letter, and what the store has under them.
-/

namespace Shortlink

namespace MemoryStore

variable {store middle after : MemoryStore} {url : String}

/-! ## Stores that keep their codes -/

/-- Whatever has a code in one store has the same code in another one. -/
def KeepsCodes (store after : MemoryStore) : Prop :=
  ∀ (url : String) (code : ShortCode), store.codes[url]? = some code → after.codes[url]? = some code

theorem KeepsCodes.refl (store : MemoryStore) : store.KeepsCodes store :=
  fun _ _ known => known

theorem KeepsCodes.trans (first : store.KeepsCodes middle) (second : middle.KeepsCodes after) :
    store.KeepsCodes after :=
  fun url code known => second url code (first url code known)

theorem keepsCodes_shorten (store : MemoryStore) (url : String) :
    store.KeepsCodes (store.shorten url).store := by
  intro other code known
  rcases shorten_trichotomy store url with ⟨_, found⟩ | full | ⟨new, room⟩
  · rwa [shorten_of_known found]
  · rwa [shorten_of_isFullFor full]
  · have different : url ≠ other := by
      rintro rfl
      rw [Std.HashMap.getElem?_eq_none new] at known
      contradiction
    rw [shorten_of_room new room]
    change (store.codes.insert url _)[other]? = some code
    rwa [Std.HashMap.getElem?_insert, if_neg (by simpa using different)]

/-- An event tells of a URL and of the code that a store has for it. -/
def IsCodedBy (after : MemoryStore) (url : String) (event : Log.Event) : Prop :=
  ∃ code, after.codes[url]? = some code ∧
    (event = .reused code url ∨ ∃ count, event = .allocated code url count)

theorem IsCodedBy.mono {event : Log.Event} (coded : store.IsCodedBy url event)
    (keeps : store.KeepsCodes after) : after.IsCodedBy url event := by
  obtain ⟨code, known, told⟩ := coded
  exact ⟨code, keeps url code known, told⟩

theorem isCodedBy_shorten {event : Log.Event} (member : event ∈ (store.shorten url).events) :
    (store.shorten url).store.IsCodedBy url event := by
  rcases shorten_trichotomy store url with ⟨code, found⟩ | full | ⟨new, room⟩
  · rw [shorten_of_known found] at member ⊢
    exact ⟨code, found, .inl (List.mem_singleton.mp member)⟩
  · rw [shorten_of_isFullFor full] at member
    contradiction
  · rw [shorten_of_room new room] at member ⊢
    exact ⟨_, Std.HashMap.getElem?_insert_self, .inr ⟨_, List.mem_singleton.mp member⟩⟩

theorem codes_shorten_of_ok {code : ShortCode} (answered : (store.shorten url).answer = .ok code) :
    (store.shorten url).store.codes[url]? = some code := by
  rcases shorten_trichotomy store url with ⟨_, found⟩ | full | ⟨new, room⟩
  · rw [shorten_of_known found] at answered ⊢
    rwa [← Except.ok.inj answered]
  · rw [shorten_of_isFullFor full] at answered
    contradiction
  · rw [shorten_of_room new room] at answered ⊢
    rw [← Except.ok.inj answered]
    exact Std.HashMap.getElem?_insert_self

end MemoryStore

namespace Session

open Gateway

variable {store after : MemoryStore} {timeout : Nat} {step : Step}

/-! ## What steps ask for -/

/-- A step asks for the code of a URL. -/
inductive Step.Shortens : Step → String → Prop
  | call (url : String) : Shortens (.call (.shorten url)) url
  /-- One of the numbered URLs of a store that is filled. -/
  | fill {stem : String} {first count number : Nat} : first ≤ number → number < first + count →
      Shortens (.fill stem first count) (stem ++ toString number)
  /-- One of the URLs that clients shorten. -/
  | clients {count : Nat} {urls : List String} {url : String} : url ∈ urls →
      Shortens (.clients count urls) url
  /-- A request whose body asks for the URL. -/
  | request {message : Http.Request} {url : String} : IsShorten message →
      ShortenRequest.Asks message.body url → Shortens (.request .gateway (.ok message)) url

/-- A step looks a key up, and leaves a store. -/
inductive Step.Seeks (after : MemoryStore) : Step → String → Prop
  | call (key : String) : Seeks after (.call (.resolve key)) key
  /-- A code that clients have been told for one of their URLs. -/
  | clients {count : Nat} {urls : List String} {url : String} {code : ShortCode} : url ∈ urls →
      after.codes[url]? = some code → Seeks after (.clients count urls) code.text
  /-- A request whose path spells the key. -/
  | request {message : Http.Request} {piece key : String} :
      pieces message.target.path = ["", "go", piece] →
      Http.percentDecodeText? piece = some key → Seeks after (.request .gateway (.ok message)) key

/-- What there is to tell of the request that a step sends. -/
def Step.span? : Step → Option Log.Span
  | .request _ (.ok message) => some (spanOf message)
  | _ => none

/-! ## What events tell -/

/-- An event tells of no URL, no key and no code. -/
def IsSilent (event : Log.Event) : Prop :=
  ∀ field ∈ event.fields, field.1 ∉ ["url", "key", "code"]

/-- The URLs, keys and codes that an event tells of are those that a step asks for, and what the
store that it leaves has under them. -/
def Step.Explains (step : Step) (after : MemoryStore) : Log.Event → Prop
  | .allocated code url _ | .reused code url | .shortened url code =>
      step.Shortens url ∧ after.codes[url]? = some code
  | .resolving key | .unsendableUrl key _ => step.Seeks after key
  | .keyNotFound key => step.Seeks after key ∧ after.urls[key]? = none
  | .redirecting key url => step.Seeks after key ∧ after.urls[key]? = some url
  | event => IsSilent event

theorem explains_of_isSilent {event : Log.Event} (silent : IsSilent event) :
    step.Explains after event := by
  cases event <;> first | exact silent | simp [IsSilent, Log.Event.fields] at silent

theorem explains_of_isCodedBy {url : String} {event : Log.Event} (shortens : step.Shortens url)
    (coded : after.IsCodedBy url event) : step.Explains after event := by
  obtain ⟨code, known, rfl | ⟨count, rfl⟩⟩ := coded
  · exact ⟨shortens, known⟩
  · exact ⟨shortens, known⟩

/-- Each of these events tells of what a step asks for. -/
def Step.ExplainsAll (step : Step) (after : MemoryStore) (events : List Log.Event) : Prop :=
  ∀ event ∈ events, step.Explains after event

theorem explainsAll_nil : step.ExplainsAll after [] :=
  List.forall_mem_nil _

theorem Step.ExplainsAll.append {events more : List Log.Event}
    (first : step.ExplainsAll after events) (second : step.ExplainsAll after more) :
    step.ExplainsAll after (events ++ more) :=
  List.forall_mem_append.mpr ⟨first, second⟩

theorem explainsAll_singleton {event : Log.Event} (explained : step.Explains after event) :
    step.ExplainsAll after [event] :=
  List.forall_mem_singleton.mpr explained

/-- An entry belongs to the request of a step, if it is one, and tells of what the step asks
for. -/
def Step.ExplainsEntry (step : Step) (after : MemoryStore) (entry : Log.Entry) : Prop :=
  entry.span? = step.span? ∧ step.Explains after entry.event

theorem explainsEntry_outside {events : List Log.Event} (none : step.span? = none)
    (explained : step.ExplainsAll after events) :
    ∀ entry ∈ Log.outside events, step.ExplainsEntry after entry :=
  List.forall_mem_map.mpr fun event member => ⟨none.symm, explained event member⟩

theorem explainsEntry_during {span : Log.Span} {events : List Log.Event}
    (some : step.span? = some span) (explained : step.ExplainsAll after events) :
    ∀ entry ∈ Log.during span events, step.ExplainsEntry after entry :=
  List.forall_mem_map.mpr fun event member => ⟨some.symm, explained event member⟩

/-! ## Calls -/

theorem keepsCodes_shortenAll (store : MemoryStore) (codes : List ShortCode)
    (events : List (List Log.Event)) (urls : List String) :
    store.KeepsCodes (shortenAll codes store events urls).store := by
  induction urls generalizing codes store events with
  | nil => exact .refl store
  | cons url rest ih =>
      have first : store.KeepsCodes (KeyStore.shorten store url).store :=
        MemoryStore.keepsCodes_shorten store url
      rw [shortenAll]
      split
      · exact first.trans (ih _ _ _)
      · exact first

/-- What is reported while URLs are shortened tells of the codes that they have in the end. -/
theorem isCodedBy_of_mem_shortenAll {store : MemoryStore} {codes : List ShortCode}
    {reported : List (List Log.Event)} {urls : List String} {event : Log.Event}
    (member : event ∈ (shortenAll codes store reported urls).events) :
    event ∈ reported.reverse.flatten ∨
      ∃ url ∈ urls, (shortenAll codes store reported urls).store.IsCodedBy url event := by
  induction urls generalizing codes store reported with
  | nil => exact .inl member
  | cons url rest ih =>
      have first {event : Log.Event} (reported : event ∈ (KeyStore.shorten store url).events) :
          (KeyStore.shorten store url).store.IsCodedBy url event :=
        MemoryStore.isCodedBy_shorten reported
      have parted {event : Log.Event} (member : event ∈
            ((KeyStore.shorten store url).events :: reported).reverse.flatten) :
          event ∈ reported.reverse.flatten ∨ event ∈ (KeyStore.shorten store url).events := by
        rwa [List.reverse_cons, List.flatten_append, List.mem_append, List.flatten_singleton]
          at member
      rw [shortenAll] at member ⊢
      split at member
      · rcases ih member with early | ⟨other, isOther, coded⟩
        · rcases parted early with earlier | now
          · exact .inl earlier
          · exact .inr ⟨url, List.mem_cons_self,
              (first now).mono (keepsCodes_shortenAll _ _ _ rest)⟩
        · exact .inr ⟨other, List.mem_cons_of_mem url isOther, coded⟩
      · rcases parted member with earlier | now
        · exact .inl earlier
        · exact .inr ⟨url, List.mem_cons_self, first now⟩

/-- The codes that come back are those of the URLs, the last one first. -/
theorem exists_codes_of_shortenAll {store : MemoryStore} {codes told : List ShortCode}
    {reported : List (List Log.Event)} {urls : List String}
    (answered : (shortenAll codes store reported urls).answer = (told, none)) :
    ∃ found, told = found.reverse ++ codes ∧
      List.Forall₂ (fun (url : String) code =>
        (shortenAll codes store reported urls).store.codes[url]? = some code) urls found := by
  induction urls generalizing codes store reported with
  | nil => exact ⟨[], (Prod.mk.inj answered).1.symm, .nil⟩
  | cons url rest ih =>
      rw [shortenAll] at answered ⊢
      split at answered
      · rename_i code first
        obtain ⟨found, same, known⟩ := ih answered
        refine ⟨code :: found, ?_, .cons ?_ known⟩
        · rw [same, List.reverse_cons, List.append_assoc, List.singleton_append]
        · exact keepsCodes_shortenAll _ _ _ rest _ _ (MemoryStore.codes_shorten_of_ok first)
      · exact nomatch (Prod.mk.inj answered).2

/-! ## Steps without requests -/

theorem explainsAll_call (store : MemoryStore) (call : Call) :
    (Step.call call).ExplainsAll (call.run store).store (call.run store).events := by
  cases call with
  | shorten url =>
      exact fun event member =>
        explains_of_isCodedBy (.call url) (MemoryStore.isCodedBy_shorten member)
  | resolve key => exact explainsAll_singleton (.call key)
  | contains key => exact explainsAll_nil
  | allocated => exact explainsAll_nil

theorem explainsAll_fill (store : MemoryStore) (stem : String) (first count : Nat) :
    (Step.fill stem first count).ExplainsAll (fillStore store stem first count).store
      (fillStore store stem first count).events := by
  intro event member
  rcases isCodedBy_of_mem_shortenAll member with none | ⟨url, isUrl, coded⟩
  · contradiction
  · obtain ⟨number, inRange, rfl⟩ := List.mem_map.mp isUrl
    obtain ⟨above, below⟩ := List.mem_range'_1.mp inRange
    exact explains_of_isCodedBy (.fill above below) coded

theorem mem_of_mem_clientOrder {urls : List String} {client : Nat} {url : String}
    (member : url ∈ clientOrder urls client) : url ∈ urls := by
  unfold clientOrder List.rotateLeft at member
  dsimp only at member
  split at member
  · exact member
  · rcases List.mem_append.mp member with late | early
    · exact List.mem_of_mem_drop late
    · exact List.mem_of_mem_take early

theorem explainsAll_clients (store : MemoryStore) (count : Nat) (urls : List String) :
    (Step.clients count urls).ExplainsAll (serveClients store count urls).store
      (serveClients store count urls).events := by
  let order := (List.range count).flatMap (clientOrder urls)
  have isUrl {url : String} (member : url ∈ order) : url ∈ urls := by
    obtain ⟨client, -, taken⟩ := List.mem_flatMap.mp member
    exact mem_of_mem_clientOrder taken
  have shortened : (Step.clients count urls).ExplainsAll (shortenAll [] store [] order).store
      (shortenAll [] store [] order).events := by
    intro event member
    rcases isCodedBy_of_mem_shortenAll member with none | ⟨url, isOrdered, coded⟩
    · contradiction
    · exact explains_of_isCodedBy (.clients (isUrl isOrdered)) coded
  unfold serveClients
  dsimp only
  split
  · exact shortened
  · rename_i codes answered
    refine shortened.append fun event member => ?_
    obtain ⟨found, known, assigned⟩ := exists_codes_of_shortenAll answered
    rw [List.append_nil] at known
    rw [known, List.reverse_reverse] at member
    obtain ⟨resolved, isResolved, reported⟩ := List.mem_flatMap.mp member
    obtain ⟨⟨url, code⟩, seen, rfl⟩ := List.mem_map.mp isResolved
    rw [List.mem_singleton.mp reported]
    exact .clients (isUrl (List.of_mem_zip seen).1) (List.forall₂_zip assigned seen)

/-! ## Requests -/

theorem explainsAll_silent {event : Log.Event} (silent : IsSilent event) :
    step.ExplainsAll after [event] :=
  explainsAll_singleton (explains_of_isSilent silent)

theorem explainsAll_refuse (refusal : Refusal) : step.ExplainsAll after [refusal.event] :=
  explainsAll_silent (by simp [IsSilent, Refusal.event, Log.Event.fields])

/-- What is reported of a URL that a request asks for tells of it and of its code. -/
theorem explainsAll_shortenUrl {store : MemoryStore} {url : String}
    (shortens : step.Shortens url) :
    step.ExplainsAll (shortenUrl store url).store (shortenUrl store url).events := by
  have coded : step.ExplainsAll (KeyStore.shorten store url).store
      (KeyStore.shorten store url).events :=
    fun event member => explains_of_isCodedBy shortens (MemoryStore.isCodedBy_shorten member)
  cases answered : (KeyStore.shorten store url).answer with
  | ok code =>
      rw [shortenUrl_of_ok answered]
      exact coded.append
        (explainsAll_singleton ⟨shortens, MemoryStore.codes_shorten_of_ok answered⟩)
  | error failure =>
      rw [shortenUrl_of_error answered]
      exact coded

/-- What is reported of a key that a request spells tells of it and of the URL under it. -/
theorem explainsAll_redirectKey {store : MemoryStore} {key : String}
    (seeks : step.Seeks store key) :
    step.ExplainsAll (redirectKey store key).store (redirectKey store key).events := by
  have resolved : KeyStore.resolve store key = (store.resolve key, [.resolving key]) := rfl
  have both {last : Log.Event} (explained : step.Explains store last) :
      step.ExplainsAll store ([.resolving key] ++ [last]) :=
    .append (explainsAll_singleton seeks) (explainsAll_singleton explained)
  unfold redirectKey
  rw [resolved]
  cases found : store.urls[key]? with
  | none =>
      have missing : store.resolve key = .error (.notFound key) := by
        rw [MemoryStore.resolve, found]
      simp only [missing]
      exact both ⟨seeks, found⟩
  | some url =>
      have leads : store.resolve key = .ok url := by
        rw [MemoryStore.resolve, found]
      simp only [leads]
      split
      · exact both ⟨seeks, found⟩
      · exact both seeks

theorem explainsAll_gateway (store : MemoryStore) (request : Http.Request) :
    (Step.request .gateway (.ok request)).ExplainsAll
      ((gatewaySite.dispatch request).work store request).store
      ((gatewaySite.dispatch request).work store request).events := by
  unfold Site.dispatch
  split
  · exact explainsAll_nil
  · rename_i resource found
    split
    · rename_i asked
      rcases gatewaySite_eq_some found with rfl | ⟨cut, rfl⟩ | ⟨piece, cut, rfl⟩
      · exact explainsAll_nil
      · have isShorten : IsShorten request := ⟨of_decide_eq_true asked, path_eq_shorten cut⟩
        simp only [Dispatch.work, shorten]
        split
        · exact explainsAll_refuse _
        · split
          · exact explainsAll_silent (by simp [IsSilent, Log.Event.fields])
          · rename_i url read
            exact explainsAll_shortenUrl
              (.request isShorten (ShortenRequest.read_eq_ok_iff_asks.mp read))
      · simp only [Dispatch.work, redirect]
        split
        · exact explainsAll_refuse _
        · rename_i key decoded
          exact explainsAll_redirectKey (.request cut decoded)
    · exact explainsAll_nil

theorem explainsAll_probe (store : MemoryStore) (request : Http.Request) :
    (Step.request .probe (.ok request)).ExplainsAll
      ((probeSite.dispatch request).work store request).store
      ((probeSite.dispatch request).work store request).events := by
  unfold Site.dispatch
  split
  · exact explainsAll_nil
  · rename_i resource found
    split
    · simp only [Dispatch.work]
      rcases events_of_probe found store request with none | ⟨refusal, one⟩
      · rw [none]
        exact explainsAll_nil
      · rw [one]
        exact explainsAll_refuse refusal
    · exact explainsAll_nil

/-- Work that is given up has nothing to explain. -/
theorem Step.ExplainsAll.within {work : Work MemoryStore}
    (explained : step.ExplainsAll work.store work.events) (timeout : Nat) (store : MemoryStore) :
    step.ExplainsAll (work.within timeout store).store (work.within timeout store).events := by
  rw [Work.within]
  split
  · exact explainsAll_nil
  · exact explained

theorem explainsAll_recovery (encounter : Encounter MemoryStore) :
    step.ExplainsAll after encounter.recovery := by
  refine List.forall_mem_map.mpr fun payload _ => explains_of_isSilent ?_
  simp [IsSilent, Log.Event.fields]

theorem explainsAll_failure (encounter : Encounter MemoryStore) :
    step.ExplainsAll after encounter.failure := by
  unfold Encounter.failure
  dsimp only
  split
  · exact explainsAll_silent (by simp [IsSilent, Log.Event.fields])
  · exact explainsAll_nil

/-- What is reported of a request, by its handler and by the layers around it, is explained by the
request. -/
theorem explainsEntry_serve (host : Host) (timeout : Nat) (store : MemoryStore)
    (request : Http.Request) :
    let reply := serve host.site timeout store request
    ∀ entry ∈ reply.entries ++ reply.entriesAtEnd,
      (Step.request host (.ok request)).ExplainsEntry reply.store entry := by
  intro reply
  let step := Step.request host (.ok request)
  let encounter : Encounter MemoryStore :=
    { site := host.site, timeout, request, readsBody := true, store }
  have handled : step.ExplainsAll encounter.work.store encounter.work.events := by
    refine Step.ExplainsAll.within ?_ timeout store
    cases host with
    | gateway => exact explainsAll_gateway store request
    | probe => exact explainsAll_probe store request
  have started : IsSilent .requestStarted := by simp [IsSilent, Log.Event.fields]
  have finished (status : Nat) : IsSilent (.requestFinished status) := by
    simp [IsSilent, Log.Event.fields]
  have sent : IsSilent .bodySent := by simp [IsSilent, Log.Event.fields]
  refine List.forall_mem_append.mpr ⟨?_, ?_⟩
  · have reported : reply.entries = _ := encounter.entries_reply
    rw [reported]
    refine explainsEntry_during rfl ?_
    exact ((((explainsAll_silent started).append handled).append (explainsAll_recovery _)).append
      (explainsAll_silent (finished _))).append (explainsAll_failure _)
  · rcases entriesAtEnd_serve host.site timeout store request with none | one
    · have reported : reply.entriesAtEnd = [] := none
      rw [reported]
      exact List.forall_mem_nil _
    · have reported : reply.entriesAtEnd = _ := one
      rw [reported]
      exact explainsEntry_during rfl (explainsAll_silent sent)

/-! ## All steps -/

/-- Whatever a step reports is explained by it. -/
theorem explainsEntry_run (step : Step) (timeout : Nat) (store : MemoryStore) :
    ∀ entry ∈ (step.run timeout store).entries,
      step.ExplainsEntry (step.run timeout store).store entry := by
  cases step with
  | call call => exact explainsEntry_outside rfl (explainsAll_call store call)
  | fill stem first count =>
      exact explainsEntry_outside rfl (explainsAll_fill store stem first count)
  | clients count urls => exact explainsEntry_outside rfl (explainsAll_clients store count urls)
  | request host message =>
      cases message with
      | error failure => exact List.forall_mem_nil _
      | ok request => exact explainsEntry_serve host timeout store request

/-- An entry of the log, with the step that it comes from and the store that the step leaves. -/
structure Notice where
  step : Step
  after : MemoryStore
  entry : Log.Entry

/-- What is reported while steps are taken, each on the store with its number. -/
def notices (timeout : Nat) (stores : Stores MemoryStore) : List (Nat × Step) → List Notice
  | [] => []
  | (number, step) :: steps =>
      let result := step.run timeout (stores number)
      result.entries.map (fun entry => { step, after := result.store, entry }) ++
        notices timeout (stores.set number result.store) steps

theorem entries_notices (timeout : Nat) (stores : Stores MemoryStore) (steps : List (Nat × Step)) :
    (notices timeout stores steps).map Notice.entry =
      (run timeout stores steps).flatMap Prod.snd := by
  induction steps generalizing stores with
  | nil => rfl
  | cons first rest ih =>
      rw [notices, run, List.map_append, ih, List.flatMap_cons, List.map_map]
      exact congrArg (· ++ _) (List.map_id _)

theorem explains_of_mem_notices {timeout : Nat} {stores : Stores MemoryStore}
    {steps : List (Nat × Step)} {notice : Notice} (member : notice ∈ notices timeout stores steps) :
    notice.step.ExplainsEntry notice.after notice.entry := by
  induction steps generalizing stores with
  | nil => contradiction
  | cons first rest ih =>
      rcases List.mem_append.mp member with now | later
      · obtain ⟨entry, reported, rfl⟩ := List.mem_map.mp now
        exact explainsEntry_run first.2 timeout _ entry reported
      · exact ih later

end Session

end Shortlink
