import Courier.Proofs.Http.ClientHeaders
import Courier.Proofs.Http.ExchangeStep
import Courier.Proofs.Http.Framing

/-!
# Exchanges that follow their reply

An exchange follows what it has read of its reply channel: it has come as far as these messages
lead, or it has failed behind them. This is so whatever a step finds, also where a message expires
or the connection to the backend fails.

A client that has an unbroken response did not fail, so what it has read leads to this response.
Whatever may stand behind in the channel, the response is that of the messages sent; if these are
the messages of a response, it is what this response shows to clients.
-/

namespace Courier.Http

namespace Exchange

/-! ## What an exchange has come to -/

/-- An exchange reads a channel, and has come as far as what it has read leads, or has failed behind
it. -/
structure Follows (channel : String) (read : List Message) (exchange : Exchange) : Prop where
  replyChannel : exchange.replyChannel = channel
  listens : ∀ reading, exchange.reading? = some reading → reading.Listens channel
  stage : exchange.state.stage = Stage.awaiting.takeAll read ∨
    ∃ error, exchange.state.stage = (Stage.awaiting.takeAll read).fail error

/-- What a step of an exchange does to the site: every queue loses expired messages at most, but for
a message that is brought from the channel of the exchange. -/
structure Takes (site : Site) (now : Instant) (channel : String) (brought : Option Message)
    (after : Site) : Prop where
  queue : QueueStep now (site.backend.store.queue channel) none brought
    (after.backend.store.queue channel)
  others : ∀ other, other ≠ channel →
    QueueStep now (site.backend.store.queue other) none none (after.backend.store.queue other)

variable {channel : String} {read : List Message} {exchange : Exchange}

theorem Follows.stage_of_reading (follows : Follows channel read exchange) {reading : Reading}
    (reads : exchange.reading? = some reading) :
    exchange.state.stage = Stage.awaiting.takeAll read := by
  rcases follows.stage with same | ⟨error, failed⟩
  · exact same
  · rw [Stage.fail_eq_finished] at failed
    exact absurd failed (not_over_of_reading reads _)

theorem takes_refl (site : Site) (now : Instant) (channel : String) :
    Takes site now channel none site :=
  ⟨.refl now _, fun _ _ => .refl now _⟩

theorem Takes.of_reading {site : Site} {now : Instant} {reading : Reading}
    (listens : reading.Listens channel) (entries : List LogEntry) :
    Takes site now channel (reading.step site.backend now channel).1.message?
      ({ site with backend := (reading.step site.backend now channel).2 }.reportAll entries) := by
  rcases Reading.steps_or_fails site.backend now listens with steps | ⟨error, failed, same⟩
  · refine ⟨?_, ?_⟩
    · rw [Site.backend_reportAll]
      exact steps.queue
    · intro other differ
      rw [Site.backend_reportAll]
      exact steps.others other differ
  · rw [failed]
    refine ⟨?_, ?_⟩
    · rw [Site.backend_reportAll, same]
      exact .refl now _
    · intro other _
      rw [Site.backend_reportAll, same]
      exact .refl now _

theorem Follows.accept (follows : Follows channel read exchange) {reading : Reading}
    (reads : exchange.reading? = some reading) (now : Instant) (next : Read)
    (listens : ∀ later, next = .reading later → later.Listens channel) :
    Follows channel (read ++ next.message?.toList)
      { exchange with state := (exchange.accept now next).1 } := by
  have stage := exchange.stage_accept now next
  have before := follows.stage_of_reading reads
  refine ⟨follows.replyChannel, ?_, ?_⟩
  · intro later readsLater
    cases next with
    | message message =>
        cases reading?_accept_message now message readsLater reads
        trivial
    | reading other =>
        rw [reading?_accept_reading now other reads] at readsLater
        cases readsLater
        exact listens later rfl
    | failed error =>
        have isOver : ({ exchange with state := (exchange.accept now (.failed error)).1 } :
            Exchange).state.stage = .finished _ := stage.trans (Stage.fail_eq_finished error _)
        exact absurd isOver (not_over_of_reading readsLater _)
  · cases next with
    | message message =>
        left
        rw [Read.message?, Option.toList_some, Stage.takeAll_snoc, ← before]
        exact stage
    | reading other =>
        left
        rw [Read.message?, Option.toList_none, List.append_nil, ← before]
        exact stage
    | failed error =>
        right
        refine ⟨error, ?_⟩
        rw [Read.message?, Option.toList_none, List.append_nil, ← before]
        exact stage

/-- A step of an exchange takes what it brings from the channel, and the exchange follows it. -/
theorem Follows.step (follows : Follows channel read exchange) (site : Site) (now : Instant) :
    Follows channel (read ++ (exchange.brought? site now).toList) (exchange.step site now).1 ∧
      Takes site now channel (exchange.brought? site now) (exchange.step site now).2 := by
  have same := follows.replyChannel
  subst same
  cases reads : exchange.reading? with
  | none =>
      rcases step_of_over reads site now with ⟨stays, nothing⟩
      rw [stays, nothing, Option.toList_none, List.append_nil]
      exact ⟨follows, takes_refl site now exchange.replyChannel⟩
  | some reading =>
      have listens := follows.listens reading reads
      rw [step_of_reading reads, brought?_of_reading reads]
      refine ⟨follows.accept reads now _ ?_, Takes.of_reading listens _⟩
      intro later isLater
      rcases Reading.steps_or_fails site.backend now listens with steps | ⟨error, failed, -⟩
      · have comes := steps.comes
        rw [isLater] at comes
        exact comes.listens
      · rw [isLater] at failed
        cases failed

theorem registry_step (exchange : Exchange) (site : Site) (now : Instant) :
    (exchange.step site now).2.registry = site.registry := by
  rw [step]
  split
  · rfl
  · rw [Site.registry_reportAll]

/-! ## Unbroken responses -/

/-- What was read leads to the response that a client has, unless its body broke off. -/
theorem Follows.takeAll_of_unbroken (follows : Follows channel read exchange)
    {response : NativeResponse} (ended : exchange.result? = some (.ok response))
    (unbroken : response.broken = false) :
    Stage.awaiting.takeAll read = .finished (.ok response) := by
  have isOver := stage_of_result? ended
  rcases follows.stage with same | ⟨error, failed⟩
  · exact same.symm.trans isOver
  · rw [isOver, Stage.fail_eq_finished] at failed
    cases stage : Stage.awaiting.takeAll read with
    | awaiting =>
        rw [stage] at failed
        cases failed
    | body head content =>
        rw [stage] at failed
        cases failed
        cases unbroken
    | finished result =>
        rw [stage] at failed
        exact failed.symm

end Exchange

/-! ## What a response shows -/

/-- Behind a head, chunks that end are the body of an unbroken response. -/
theorem Stage.takeAll_chunks (head : Head) (content : List UInt8) {chunks : List ResponseChunk}
    (ended : Ended chunks) :
    (Stage.body head content).takeAll
        ((chunks.map ResponseMessage.chunk).map ResponseMessage.toMessage) =
      .finished (.ok (head.answer (content ++ contents chunks) false)) := by
  have taken : ∀ (content : List UInt8) (chunk : ResponseChunk),
      (Stage.body head content).take (ResponseMessage.chunk chunk).toMessage =
        if chunk.moreContent then .body head (content ++ chunk.content)
        else .finished (.ok (head.answer (content ++ chunk.content) false)) := by
    intro content chunk
    rw [take, takeBody, ResponseMessage.ofMessage_toMessage (ResponseMessage.fits_chunk chunk)]
  induction ended generalizing content with
  | last bytes =>
      rw [List.map_singleton, List.map_singleton, takeAll, List.foldl_cons, List.foldl_nil, taken,
        if_neg Bool.false_ne_true, contents, List.flatMap_singleton]
  | more bytes ended ih =>
      rw [List.map_cons, List.map_cons, takeAll, List.foldl_cons, taken, if_pos rfl, ← takeAll,
        ih, contents, contents, List.flatMap_cons, List.append_assoc]

/-- The messages of a response lead to its status, the pairs that stand for headers, and its whole
body. -/
theorem Stage.takeAll_encode (response : Response) (chunkSize : Nat) :
    Stage.awaiting.takeAll (response.encode chunkSize) =
      .finished (.ok (Head.answer
        ⟨response.status, .ofPairs (Exchange.acceptedPairs response.allHeaders)⟩
        response.body.bytes false)) := by
  have readable := ResponseMessage.ofMessage_toMessage
    (show (ResponseMessage.start response.start).Fits from Response.code_lt response.status)
  have head : Stage.awaiting.take (ResponseMessage.start response.start).toMessage =
      .body ⟨response.status, .ofPairs (Exchange.acceptedPairs response.allHeaders)⟩ [] := by
    rw [Stage.take, ← Exchange.headers_clientHeaders]
    exact Stage.takeHead_of_start readable (Response.statusOf_code response.status)
  rw [Response.encode, Response.frames, List.map_cons, Stage.takeAll, List.foldl_cons, head,
    ← Stage.takeAll, Stage.takeAll_chunks _ _ (response.body.ended_chunks chunkSize),
    Body.contents_chunks, List.nil_append]

/-- A response is shown by a native one: the status, the pairs that stand for headers with a
Set-Cookie for each cookie, and the body. -/
structure Shows (native : NativeResponse) (response : Response) : Prop where
  status : native.status = response.status
  headers : native.headers = .ofPairs (Exchange.acceptedPairs response.allHeaders)
  body : native.body = response.body.bytes

/-- A client that has read a part of the messages of a response, and has an unbroken response, shows
the response. -/
theorem Exchange.Follows.shows {channel : String} {read : List Message} {exchange : Exchange}
    (follows : exchange.Follows channel read) {native : NativeResponse}
    (ended : exchange.result? = some (.ok native)) (unbroken : native.broken = false)
    {response : Response} {chunkSize : Nat} (part : read <+: response.encode chunkSize) :
    Shows native response := by
  rcases part with ⟨unread, whole⟩
  have reached : Stage.awaiting.takeAll (response.encode chunkSize) = .finished (.ok native) := by
    rw [← whole, Stage.takeAll_append, follows.takeAll_of_unbroken ended unbroken,
      Stage.takeAll_finished]
  rw [Stage.takeAll_encode] at reached
  cases reached
  exact ⟨rfl, rfl, rfl⟩

end Courier.Http
