import Courier.Proofs.Http.ClientHeaders
import Courier.Proofs.Http.Finishing
import Mathlib.Data.List.Infix

/-!
# A client and a collector agree

A client reads its reply as it comes, a collector looks at all messages together. Provided that each
message is read before it expires and comes within the time that the client waits for it, the client
gets a response with a whole body just where the collector has a response, and it is the same one
but for headers that a client cannot receive; these are reported. Of a response whose body breaks
off, the client has the head and whatever stood before the message that is out of place. Without a
head there is an error.
-/

namespace Courier.Http

/-! ## Results -/

/-- Messages that begin with a start. -/
def OpensWith (messages : List Message) (start : ResponseStart) (rest : List Message) : Prop :=
  ∃ first, messages = first :: rest ∧ ResponseMessage.ofMessage first = .ok (.start start)

/-- What a client has got of messages that begin with a start, and the warnings for the pairs that
it cannot receive. -/
structure Received (messages : List Message) (response : NativeResponse) (start : ResponseStart)
    (rest : List Message) (warnings : List LogEntry) : Prop where
  opens : OpensWith messages start rest
  status : response.status.code = start.status
  headers : response.headers = .ofPairs (Exchange.acceptedPairs start.headers)
  order : ∀ name, response.headers.values name =
    ((Exchange.acceptedPairs start.headers).filter fun pair => pair.1 = name).map Prod.snd
  warned : Exchange.WarnOf warnings (Exchange.rejectedPairs start.headers)
  body : BodyRead rest response.body response.broken

/-- How the result of a client, and what it has logged, goes with what a collector makes of the same
messages. -/
structure Agreement (messages : List Message) (result : Except Error NativeResponse)
    (before after : List LogEntry) : Prop where
  unbroken_iff : (∃ response, result = .ok response ∧ response.broken = false) ↔
    ∃ decoded, Response.decode messages = .ok decoded
  same : ∀ response decoded, result = .ok response → Response.decode messages = .ok decoded →
    response.status = decoded.status ∧ response.body = decoded.body.bytes
  received : ∀ response, result = .ok response →
    ∃ start rest warnings endings, Received messages response start rest warnings ∧
      after = endings ++ warnings ++ before ∧ endings.length = if response.broken then 1 else 0
  refused : ∀ error, result = .error error →
    (messages = [] ∨ ∃ first rest, messages = first :: rest ∧ NoHead first) ∧ after = before

theorem Exchange.WarnOf.reverse {entries : List LogEntry} {pairs : List (String × String)}
    (warned : WarnOf entries pairs) : WarnOf entries.reverse pairs :=
  ⟨by rw [List.length_reverse, warned.1], fun entry mem => warned.2 entry (List.mem_reverse.mp mem)⟩

theorem received_answer {first : Message} {rest : List Message} {start : ResponseStart}
    {status : Status} {content : List UInt8} {broken : Bool}
    (read : ResponseMessage.ofMessage first = .ok (.start start))
    (valid : status.code = start.status) (body : BodyRead rest content broken) :
    Received (first :: rest)
      (Head.answer ⟨status, (Exchange.clientHeaders start.headers).1⟩ content broken) start rest
      (Exchange.clientHeaders start.headers).2.reverse where
  opens := ⟨first, rfl, read⟩
  status := valid
  headers := Exchange.headers_clientHeaders start.headers
  order := by
    intro name
    rw [← HeaderMap.values_ofPairs, ← Exchange.headers_clientHeaders]
    rfl
  warned := (Exchange.warnOf_clientHeaders start.headers).reverse
  body := body

theorem Exchange.headEntries_of_start {first : Message} {rest : List Message}
    {start : ResponseStart} {status : Status}
    (read : ResponseMessage.ofMessage first = .ok (.start start))
    (valid : status.code = start.status) :
    headEntries (first :: rest) = (clientHeaders start.headers).2 := by
  have inRange := status.valid
  rw [valid] at inRange
  simp only [headEntries, read, Collector.statusOf, Status.ofCode?, inRange, and_self, dite_true]

theorem Exchange.headEntries_of_noHead {first : Message} (noHead : NoHead first)
    (rest : List Message) : headEntries (first :: rest) = [] := by
  rcases noHead with ⟨error, unread⟩ | ⟨chunk, read⟩ | ⟨start, read, invalid⟩
  · simp only [headEntries, unread]
  · simp only [headEntries, read]
  · rcases statusOf_of_not_valid invalid with ⟨error, noStatus⟩
    simp only [headEntries, read, noStatus]

theorem Exchange.TellsBreak.nil_of_error {entries : List LogEntry} {error : Error}
    (tells : TellsBreak entries (.finished (.error error))) : entries = [] := by
  rcases tells with ⟨none, -⟩ | ⟨-, broken⟩
  · exact none
  · exact absurd broken (not_broken_of_error error)

theorem agreement_of_logged {messages : List Message} {silence : Error}
    {before after : List LogEntry}
    (logged : Exchange.Logged before messages
      (.finished ((Stage.awaiting.takeAll messages).result silence)) after) :
    Agreement messages ((Stage.awaiting.takeAll messages).result silence) before after := by
  have reply := reply_of_takeAll messages silence
  generalize (Stage.awaiting.takeAll messages).result silence = result at logged reply ⊢
  generalize decode_eq : Response.decode messages = decoded at reply
  rcases logged with ⟨endings, same, tells⟩
  cases reply with
  | @whole first rest start status content split read valid body =>
      subst split
      refine ⟨?_, ?_, ?_, nofun⟩
      · exact ⟨fun _ => ⟨_, decode_eq⟩, fun _ => ⟨_, rfl, rfl⟩⟩
      · rintro _ own ⟨⟩ isOwn
        rw [decode_eq] at isOwn
        cases isOwn
        exact ⟨rfl, rfl⟩
      · rintro _ ⟨⟩
        rw [Exchange.headEntries_of_start read valid] at same
        refine ⟨start, rest, _, endings, received_answer read valid body, same, ?_⟩
        rcases tells with ⟨none, -⟩ | ⟨-, _, impossible, broken⟩
        · rw [none]
          rfl
        · cases impossible
          cases broken
  | @broken first rest start status content problem split read valid body =>
      subst split
      refine ⟨⟨?_, ?_⟩, ?_, ?_, nofun⟩
      · rintro ⟨_, ⟨⟩, unbroken⟩
        cases unbroken
      · rintro ⟨own, isOwn⟩
        rw [decode_eq] at isOwn
        cases isOwn
      · rintro _ own ⟨⟩ isOwn
        rw [decode_eq] at isOwn
        cases isOwn
      · rintro _ ⟨⟩
        rw [Exchange.headEntries_of_start read valid] at same
        refine ⟨start, rest, _, endings, received_answer read valid body, same, ?_⟩
        rcases tells with ⟨-, unbroken⟩ | ⟨one, -⟩
        · exact absurd ⟨_, rfl, rfl⟩ unbroken
        · exact one
  | @refused first rest reason problem split noHead =>
      subst split
      refine ⟨⟨nofun, ?_⟩, nofun, nofun, ?_⟩
      · rintro ⟨own, isOwn⟩
        rw [decode_eq] at isOwn
        cases isOwn
      · rintro _ ⟨⟩
        refine ⟨Or.inr ⟨first, rest, rfl, noHead⟩, ?_⟩
        rw [Exchange.headEntries_of_noHead noHead, tells.nil_of_error] at same
        exact same
  | nothing none =>
      subst none
      refine ⟨⟨nofun, ?_⟩, nofun, nofun, ?_⟩
      · rintro ⟨own, isOwn⟩
        rw [decode_eq] at isOwn
        cases isOwn
      · rintro _ ⟨⟩
        refine ⟨Or.inl rfl, ?_⟩
        rw [tells.nil_of_error] at same
        exact same

/-! ## From the request on -/

namespace Reception

/-- A client that has sent its request awaits the head, and has logged nothing. -/
theorem started {settings : HttpSettings} {site : Site} {begun : Instant} {request : Request}
    (sent : (start settings site begun request).exchange.reading?.isSome) :
    (start settings site begun request).exchange.state =
        .awaitingHead (Exchange.nextReading settings begun) ∧
      (start settings site begun request).site.log = site.log ∧
      (start settings site begun request).site.backend.failingReceives =
        site.backend.failingReceives := by
  rw [start, Exchange.start] at sent ⊢
  split at sent
  case isTrue tooLarge => cases sent
  case isFalse fits =>
      rw [if_neg fits]
      dsimp only at sent ⊢
      cases encoded : request.encode (site.supply.freshName responseBase).1 settings.rootPath with
      | error error =>
          rw [encoded] at sent
          cases sent
      | ok payload =>
          rw [encoded] at sent
          dsimp only at sent ⊢
          have same := Backend.failingReceives_send site.backend begun RequestPayload.channel
            payload.toMessage
          generalize site.backend.send begun RequestPayload.channel payload.toMessage = result
            at sent same ⊢
          rcases result with ⟨_ | _, backend⟩
          · cases sent
          · exact ⟨rfl, rfl, same⟩

theorem sound_start {settings : HttpSettings} {site : Site} {begun : Instant} {request : Request}
    (reliable : site.backend.failingReceives = [])
    (sent : (start settings site begun request).exchange.reading?.isSome)
    (fresh : (start settings site begun request).store.queue
      (start settings site begun request).channel = []) (messages : List Message) :
    Sound site.log messages (start settings site begun request) := by
  rcases started sent with ⟨state, log, receives⟩
  have awaits : (start settings site begun request).exchange.state.stage = .awaiting := by
    rw [state]
    rfl
  refine Or.inl ⟨Exchange.nextReading settings begun, ?_, awaits, ⟨trivial, nofun⟩, ?_,
    Nat.le_refl _, nofun, receives.trans reliable, ?_⟩
  · rw [Exchange.reading?, state]
  · rw [fresh]
    rfl
  · rw [awaits, log]
    exact ⟨[], rfl, Or.inl ⟨rfl, nofun⟩⟩

end Reception

/-- A client that has sent its request comes to a result by itself, and whatever it comes to agrees
with what a collector makes of the messages that have arrived, provided that each of them is read
before it expires and is announced within the time that the client waits for it. -/
theorem client_agrees_with_collector (settings : HttpSettings) (site : Site) (begun : Instant)
    (request : Request) (moves : List Reception.Move)
    (reliable : site.backend.failingReceives = [])
    (sent : (Reception.start settings site begun request).exchange.reading?.isSome)
    (fresh : (Reception.start settings site begun request).store.queue
      (Reception.start settings site begun request).channel = [])
    (prompt : (Reception.start settings site begun request).Prompt moves) :
    let client := Reception.start settings site begun request
    (∃ more, (∀ move ∈ more, move.Own) ∧ client.Prompt (moves ++ more) ∧
      (client.run (moves ++ more)).arrived = (client.run moves).arrived ∧
      ∃ result, (client.run (moves ++ more)).exchange.result? = some result) ∧
    ∀ result, (client.run moves).exchange.result? = some result →
      Agreement (client.run moves).arrived result site.log (client.run moves).site.log := by
  intro client
  have sound := (Reception.sound_start reliable sent fresh (client.run moves).arrived).run
    prompt.alive prompt.inTime (List.prefix_refl _)
  refine ⟨?_, ?_⟩
  · rcases sound.finishes (prompt.alive moves (List.prefix_refl _)) with ⟨more, finishing⟩
    refine ⟨more, finishing.own, prompt.append finishing, ?_, ?_⟩
    · rw [Reception.run_append, Reception.arrived_run_of_own finishing.own]
    · rw [Reception.run_append]
      exact finishing.ended
  · intro result ended
    have stage := Exchange.stage_of_result? ended
    rcases sound with ⟨reading, opened⟩ | ⟨other, isOver⟩
    · exact absurd stage (Exchange.not_over_of_reading opened.reads result)
    · have same : Stage.finished result = Stage.finished other := stage.symm.trans isOver.stage
      cases same
      have logged := isOver.logged
      rw [isOver.whole] at logged ⊢
      exact agreement_of_logged logged

/-! ## A reply in three messages -/

/-- A request for the root of a site. -/
def rootPage : Request :=
  { method := "GET", uri := ⟨none, none, "/", none⟩, headers := .empty, body := [] }

/-- A site on which nothing has happened. -/
def quietSite : Site := { backend := .inMemory Backend.defaultLabel {} }

/-- A start with a pair that stands for no header, and two chunks. -/
def threeMessages : List Message :=
  [ResponseMessage.start ⟨200, [("X-Mark", "1"), ("", "2")]⟩, .chunk ⟨[97], true⟩,
    .chunk ⟨[98], false⟩].map ResponseMessage.toMessage

/-- The client looks at once; then the messages come, the last one half a minute later. -/
def threeMoves : List Reception.Move :=
  .read :: threeMessages.flatMap fun message =>
    [.wait (Duration.ofSeconds 15), .arrive message, .read, .announce, .read]

theorem Reception.prompt_of_early {reception : Reception} {moves : List Move}
    (alive : ∀ before ∈ moves.inits,
      ((reception.run before).store.queue (reception.run before).channel).all
        (Queued.live (reception.run before).now) = true)
    (early : ∀ before ∈ moves.inits,
      ((reception.run before).exchange.reading?.all fun reading =>
        (reception.run before).now < reading.deadline) = true) : reception.Prompt moves := by
  refine ⟨?_, ?_⟩
  · intro before le _ queued mem
    exact List.all_eq_true.mp (alive before ((List.mem_inits _ _).mpr le)) queued mem
  · intro before le reading reads late
    have init := (List.mem_inits _ _).mpr ((List.prefix_append before [.read]).trans le)
    have notLate := early before init
    rw [reads] at notLate
    exact absurd late (Nat.not_le.mpr (of_decide_eq_true notLate))

/-- The client and a collector agree on three messages; the pair that is no header is reported. -/
theorem client_agrees_with_collector_three :
    let client := Reception.start {} quietSite 0 rootPage
    client.exchange.reading?.isSome ∧ client.store.queue client.channel = [] ∧
      client.Prompt threeMoves ∧ (client.run threeMoves).arrived.length = 3 ∧
      ∃ response, (client.run threeMoves).exchange.result? = some (.ok response) ∧
        response.body = [97, 98] ∧ (client.run threeMoves).site.log.length = 1 ∧
        Agreement (client.run threeMoves).arrived (.ok response) quietSite.log
          (client.run threeMoves).site.log := by
  intro client
  have prompt : client.Prompt threeMoves :=
    Reception.prompt_of_early (by decide +kernel) (by decide +kernel)
  have ended : (client.run threeMoves).exchange.result? = some (.ok
      { status := .ok, headers := .ofPairs [("x-mark", [49])], body := [97, 98] }) := by
    decide +kernel
  have agrees := (client_agrees_with_collector {} quietSite 0 rootPage threeMoves rfl rfl rfl
    prompt).2 _ ended
  rw [show Reception.start {} quietSite 0 rootPage = client from rfl] at agrees
  exact ⟨rfl, rfl, prompt, by decide +kernel, _, ended, rfl, by decide +kernel, agrees⟩

end Courier.Http
