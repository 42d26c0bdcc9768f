import Courier.Proofs.Http.Cycles
import Mathlib.Data.List.Infix

/-!
# What clients get of cycles that do not mix

Where a call has succeeded, all of a response was sent, and a client with an unbroken response has
read all of it. So the client has the response of the view to its own request, or the fallback. Two
clients and two workers whose cycles cross show that this may happen.
-/

namespace Courier.Http

/-- What an unbroken response shows, by what the view has come to: its response, or the fallback if
there is none or its start was refused. -/
def Answers (native : NativeResponse) (channel : String) (trace : Trace) : ViewResult → Prop
  | .immediate response =>
      Shows native response ∨ StartRefused channel response trace ∧ Shows native .failure
  | .failed _ => Shows native .failure
  | .deferred _ | .brokeDown _ => False

/-- Where the consumer around a view has succeeded, an unbroken response shows what was sent. -/
theorem answers_of_handled {settings : HttpSettings} {channel : String} {own : Trace}
    {result : ViewResult} (handled : Handled settings channel own .succeeded result)
    {read : List Message} {exchange : Exchange} (follows : exchange.Follows channel read)
    (part : read <+: own.accepted channel) {native : NativeResponse}
    (ended : exchange.result? = some (.ok native)) (unbroken : native.broken = false) :
    Answers native channel own result := by
  have shows : ∀ {response : Response},
      own.accepted channel = response.encode settings.chunkSize → Shows native response := by
    intro response whole
    rw [whole] at part
    exact follows.shows ended unbroken part
  match result with
  | .immediate response =>
      rcases handled with whole | ⟨refused, whole⟩
      · exact Or.inl (shows whole)
      · exact Or.inr ⟨refused, shows whole⟩
  | .failed error =>
      rcases handled with ⟨rest, rfl, whole | ⟨-, whole⟩⟩
      · exact shows whole
      · exact shows whole
  | .deferred _ =>
      -- nothing was sent, and there is no response behind nothing
      rw [handled.1] at part
      have reached := follows.takeAll_of_unbroken ended unbroken
      rw [List.prefix_nil.mp part] at reached
      cases reached

theorem mem_channels_of_consumer? {registry : Registry Consumer} {channel : String}
    {consumer : Consumer} (served : registry.consumer? channel = some consumer) :
    channel ∈ registry.channels :=
  List.mem_map_of_mem (Assoc.mem_of_find? served)

/-- Cycles do not mix, whatever the workers and the clients do in which order. Every request is
taken by one call at most. What a client reads was sent by the call for its own request. And where
this call has succeeded, an unbroken response of the client shows what the view answers to the very
request, or the fallback. -/
theorem cycles_do_not_mix (clients : Nat → Client) (name : String) (settings : HttpSettings)
    (answer : RequestPayload → Context → ViewResult) (site : Site) (now : Instant)
    (moves : List Traffic.Move)
    (distinct : ∀ first second,
      (clients first).replyChannel = (clients second).replyChannel → first = second)
    (unbound : ∀ number, (clients number).replyChannel ∉ site.registry.channels)
    (served : site.registry.consumer? RequestPayload.channel =
      some (View.consumer name settings (.ofFunction answer)))
    (unused : Traffic.Unused clients site)
    (alive : ∀ before, before <+: moves →
      ((Traffic.start site now).run clients before).Alive) :
    let after := (Traffic.start site now).run clients moves
    (after.calls.map Call.message <+: after.requests ∧ after.requests.Nodup ∧
      ∀ message ∈ after.requests, ∃ number, (clients number).message = .ok message) ∧
    (∀ number, ∀ message ∈ after.reads number, ∃ call ∈ after.calls,
      (clients number).message = .ok call.message ∧
        after.reads number <+: call.trace.accepted (clients number).replyChannel) ∧
    ∀ number exchange native, after.exchanges number = some exchange →
      exchange.result? = some (.ok native) → native.broken = false →
      ∀ call ∈ after.calls, (clients number).message = .ok call.message →
        call.strand.rest = .done .succeeded →
        ∃ request, RequestPayload.ofMessage call.message = .ok request ∧
          Answers native (clients number).replyChannel call.trace
            (answer request call.context) := by
  intro after
  have apart : Apart clients site.registry.channels :=
    ⟨distinct _ _, unbound, mem_channels_of_consumer? served⟩
  have sound := Traffic.sound_run now moves apart served unused alive
  have parts : ∀ number, ∀ call ∈ after.calls,
      call.replyChannel? = some (clients number).replyChannel →
        after.reads number <+: call.trace.accepted (clients number).replyChannel := by
    intro number call mem about
    rw [sound.replies number call mem about]
    exact List.prefix_append _ _
  refine ⟨⟨?_, sound.distinct.of_map _, ?_⟩, ?_, ?_⟩
  · have taken : after.requests = _ := sound.taken
    rw [taken]
    exact List.prefix_append _ _
  · intro message mem
    rcases sound.asked message mem with ⟨number, asks, -⟩
    exact ⟨number, asks⟩
  · intro number message mem
    by_cases called : some (clients number).replyChannel ∈ after.calls.map Call.replyChannel?
    · rcases List.mem_map.mp called with ⟨call, callMem, about⟩
      rcases sound.client_of_call callMem with ⟨owner, asks, own⟩
      cases distinct owner number (Option.some.inj (own.symm.trans about))
      exact ⟨call, callMem, asks, parts number call callMem about⟩
    · have nothing := (sound.unread number called).1
      change after.reads number = [] at nothing
      rw [nothing] at mem
      cases mem
  · intro number exchange native begun ended unbroken call mem asks succeeded
    have run := (sound.runs call mem).run
    rw [succeeded] at run
    cases readable : RequestPayload.ofMessage call.message with
    | error error =>
        rw [View.consume, readable] at run
        cases run.done_inv.2
    | ok request =>
        rcases handled_of_run readable run with ⟨viewed, own, result, split, viewRun, handled⟩
        rcases viewRun.done_inv with ⟨rfl, rfl⟩
        rw [List.nil_append] at split
        have asked := Client.replyChannel?_of_message asks
        have about := RequestPayload.replyChannel?_of_ofMessage readable
        rw [asked] at about
        rw [← Option.some.inj about, ← split] at handled
        exact ⟨request, rfl, answers_of_handled handled (sound.follows number exchange begun)
          (parts number call mem asked) ended unbroken⟩

/-! ## Two crossing cycles -/

/-- Clients that ask for pages of their own. -/
def pageClients (number : Nat) : Client where
  settings := {}
  replyChannel := Channel.join responseBase (String.ofList (List.replicate number '0'))
  request :=
    { method := "GET", uri := ⟨none, none, if number = 0 then "/first" else "/second", none⟩
      headers := .empty, body := [] }

/-- A view that answers with the path of the request in a header. -/
def showPath (request : RequestPayload) (_ : Context) : ViewResult :=
  .immediate { Response.ofStatus .ok with headers := [("X-Path", request.path)] }

/-- A site with a consumer for requests on which nothing has happened. -/
def servedSite : Site where
  backend := .inMemory Backend.defaultLabel {}
  registry := Registry.empty.bind (View.consumer "paths" {} (.ofFunction showPath))
    [RequestPayload.channel]

/-- Two clients ask, and two workers answer them in turns; the second worker takes the request of
the first client. -/
def crossingMoves : List Traffic.Move :=
  let look (worker : Nat) : Traffic.Move := .look worker [RequestPayload.channel] false
  [.ask 0, .ask 1, .announce, look 1, look 0, .work 1, .work 0, .read 1, .work 0, .work 1, .read 0,
    .work 1, .work 0, .work 0, .work 1, .finish 0, .read 1, .finish 1, .read 0]

theorem Traffic.alive_of_queues {traffic : Traffic}
    (all : ∀ entry ∈ traffic.site.backend.store.queues, ∀ queued ∈ entry.2,
      queued.live traffic.now = true) : traffic.Alive := by
  intro channel queued mem
  rw [Store.queue] at mem
  cases found : traffic.site.backend.store.queues.find? channel with
  | none =>
      rw [found] at mem
      cases mem
  | some queue =>
      rw [found] at mem
      exact all _ (Assoc.mem_of_find? found) queued mem

theorem replyChannel_pageClients_inj (first second : Nat)
    (same : (pageClients first).replyChannel = (pageClients second).replyChannel) :
    first = second := by
  have lists := List.append_cancel_left (String.ofList_injective same)
  have suffixes := (List.cons.inj lists).2
  rw [String.toList_ofList, String.toList_ofList] at suffixes
  have lengths := congrArg List.length suffixes
  rw [List.length_replicate, List.length_replicate] at lengths
  exact lengths

theorem unbound_pageClients (number : Nat) :
    (pageClients number).replyChannel ∉ servedSite.registry.channels := by
  intro mem
  have letters := congrArg String.toList (List.mem_singleton.mp mem)
  change (String.ofList (responseBase.toList ++ _)).toList = RequestPayload.channel.toList
    at letters
  rw [String.toList_ofList] at letters
  -- the names differ in their ninth letters
  have ninth := congrArg (fun letters => letters[8]?) letters
  rw [List.getElem?_append_left (by decide)] at ninth
  exact absurd ninth (by decide)

/-- The first client gets the page that it has asked for, from the second worker. -/
theorem cycles_do_not_mix_crossing :
    let after := (Traffic.start servedSite 0).run pageClients crossingMoves
    (∀ first second, (pageClients first).replyChannel = (pageClients second).replyChannel →
      first = second) ∧
    (∀ number, (pageClients number).replyChannel ∉ servedSite.registry.channels) ∧
    servedSite.registry.consumer? RequestPayload.channel =
      some (View.consumer "paths" {} (.ofFunction showPath)) ∧
    Traffic.Unused pageClients servedSite ∧
    (∀ before, before <+: crossingMoves →
      ((Traffic.start servedSite 0).run pageClients before).Alive) ∧
    ∃ exchange native call request, after.exchanges 0 = some exchange ∧
      exchange.result? = some (.ok native) ∧
      native.headers = .ofPairs [("x-path", Utf8.encode "/first")] ∧ call ∈ after.calls ∧
      RequestPayload.ofMessage call.message = .ok request ∧
      Answers native (pageClients 0).replyChannel call.trace (showPath request call.context) := by
  intro after
  have unused : Traffic.Unused pageClients servedSite := ⟨fun _ _ => rfl, fun _ => rfl⟩
  have alive : ∀ before ∈ crossingMoves.inits, ∀ entry ∈
      ((Traffic.start servedSite 0).run pageClients before).site.backend.store.queues,
      ∀ queued ∈ entry.2, queued.live
        ((Traffic.start servedSite 0).run pageClients before).now = true := by
    decide +kernel
  have ended : (after.exchanges 0).bind Exchange.result? = some (.ok
      { status := .ok, headers := .ofPairs [("x-path", Utf8.encode "/first")], body := [] }) := by
    decide +kernel
  have succeeded : after.calls[0]?.map (fun call => call.strand.rest) =
      some (.done .succeeded) := rfl
  have asks : after.calls[0]?.map (fun call => (Except.ok call.message : Except Error Message)) =
      some (pageClients 0).message := rfl
  rcases Option.bind_eq_some_iff.mp ended with ⟨exchange, begun, result⟩
  rcases Option.map_eq_some_iff.mp succeeded with ⟨call, found, done⟩
  rw [found, Option.map_some] at asks
  have mem := List.mem_of_getElem? found
  have allAlive : ∀ before, before <+: crossingMoves →
      ((Traffic.start servedSite 0).run pageClients before).Alive :=
    fun before le => Traffic.alive_of_queues (alive before ((List.mem_inits _ _).mpr le))
  rcases (cycles_do_not_mix pageClients "paths" {} showPath servedSite 0 crossingMoves
    replyChannel_pageClients_inj unbound_pageClients rfl unused allAlive).2.2 0 exchange _
    begun result rfl call mem (Option.some.inj asks).symm done with ⟨request, readable, answers⟩
  exact ⟨replyChannel_pageClients_inj, unbound_pageClients, rfl, unused, allAlive, exchange, _,
    call, request, begun, result, rfl, mem, readable, answers⟩

end Courier.Http
