import Courier.Proofs.Http.Following
import Courier.Proofs.Http.PureViews
import Courier.Proofs.Strand
import Courier.Worker
import Mathlib.Logic.Function.Basic

/-!
# Many clients and many workers

Any number of clients ask on the request channel of one site and read their replies, while any
number of workers take messages from the channels that have consumers and carry out what the
consumers do. Nobody waits for anybody else: between two steps of one of them all others may make
steps, and time passes. Each look of a worker goes through the channels in an order of its own.

The state also holds which requests were accepted, which messages each client has read, and every
call of a consumer with what it has performed, also behind its end.
-/

namespace Courier.Http

/-! ## Clients -/

/-- A client, with the reply channel that it was given. -/
structure Client where
  settings : HttpSettings
  replyChannel : String
  request : Request

namespace Client

/-- The exchange of a client in some state. -/
def exchange (client : Client) (state : ExchangeState) : Exchange :=
  ⟨client.settings, client.replyChannel, state⟩

/-- The message by which a client asks. -/
def message (client : Client) : Except Error Message :=
  if client.settings.maxBodySize < client.request.body.length then
    .error (.requestTooLarge client.settings.maxBodySize)
  else
    (client.request.encode client.replyChannel client.settings.rootPath).map
      RequestPayload.toMessage

/-- Begins an exchange; also gives the message that was accepted, which is still to be announced. -/
def ask (client : Client) (backend : Backend) (now : Instant) :
    Exchange × Backend × Option Message :=
  match client.message with
  | .error error => (client.exchange (.failed error), backend, none)
  | .ok message =>
      match backend.push now RequestPayload.channel message with
      | (.error error, backend) => (client.exchange (.failed (.channel error)), backend, none)
      | (.ok (), backend) =>
          (client.exchange (.awaitingHead (Exchange.nextReading client.settings now)), backend,
            some message)

/-- An exchange begins by asking under a fresh reply channel, and by announcing what was accepted;
only where the request is too large no name is drawn. -/
theorem start_eq_ask {settings : HttpSettings} {site : Site} {request : Request} {name : String}
    {supply : Supply} (fits : request.body.length ≤ settings.maxBodySize)
    (drawn : site.supply.freshName responseBase = (name, supply)) (now : Instant) :
    Exchange.start settings site now request =
      match (Client.mk settings name request).ask site.backend now with
      | (exchange, backend, some _) => (exchange, { site with supply, backend := backend.announce })
      | (exchange, backend, none) => (exchange, { site with supply, backend }) := by
  rw [Exchange.start, ask, message, if_neg (Nat.not_lt.mpr fits), if_neg (Nat.not_lt.mpr fits),
    drawn]
  dsimp only
  cases request.encode name settings.rootPath with
  | error error => rfl
  | ok payload =>
      dsimp only [Except.map]
      rw [site.backend.send_eq_push now RequestPayload.channel payload.toMessage]
      rcases site.backend.push now RequestPayload.channel payload.toMessage with ⟨_ | _, backend⟩
      · rfl
      · rfl

theorem replyChannel?_of_message {client : Client} {message : Message}
    (asks : client.message = .ok message) :
    RequestPayload.replyChannel? message = some client.replyChannel := by
  rw [Client.message] at asks
  split at asks
  · cases asks
  · rw [Request.encode] at asks
    split at asks
    · cases asks
    · cases asks
      exact RequestPayload.replyChannel?_toMessage _

end Client

/-! ## States and moves -/

/-- A worker looks for a message, waits for one, or carries out a call by its number. -/
inductive Station where
  | idle
  | waiting (waiting : Waiting)
  | busy (call : Nat)

/-- A call of a consumer: the message and where it came from, what is still to be done, and what was
performed. -/
structure Call where
  message : Message
  context : Context
  strand : Strand Outcome
  trace : Trace := []

/-- Clients and workers on a site: the time, the site, the exchanges that have begun, and the
workers; besides, the requests that were accepted, the calls of consumers, and what was read. -/
structure Traffic where
  now : Instant
  site : Site
  exchanges : Nat → Option Exchange := fun _ => none
  stations : Nat → Station := fun _ => .idle
  requests : List Message := []
  calls : List Call := []
  reads : Nat → List Message := fun _ => []

namespace Traffic

/-- What may happen next. -/
inductive Move where
  | wait (duration : Duration)
  | announce
  | ask (client : Nat)
  | read (client : Nat)
  | look (worker : Nat) (order : List String) (block : Bool)
  | work (worker : Nat)
  | finish (worker : Nat)

/-- The state with another station of a worker. -/
def withStation (traffic : Traffic) (worker : Nat) (station : Station) : Traffic :=
  { traffic with stations := Function.update traffic.stations worker station }

/-- The state with another backend. -/
def withBackend (traffic : Traffic) (backend : Backend) : Traffic :=
  { traffic with site := { traffic.site with backend } }

/-- A client asks, unless it has done so. -/
def ask (traffic : Traffic) (client : Client) (number : Nat) : Traffic :=
  match traffic.exchanges number with
  | some _ => traffic
  | none =>
      let (exchange, backend, accepted) := client.ask traffic.site.backend traffic.now
      { traffic.withBackend backend with
        exchanges := Function.update traffic.exchanges number (some exchange)
        requests := traffic.requests ++ accepted.toList }

/-- A client reads. -/
def read (traffic : Traffic) (number : Nat) : Traffic :=
  match traffic.exchanges number with
  | none => traffic
  | some exchange =>
      let brought := exchange.brought? traffic.site traffic.now
      let (next, site) := exchange.step traffic.site traffic.now
      { traffic with
        site
        exchanges := Function.update traffic.exchanges number (some next)
        reads := Function.update traffic.reads number (traffic.reads number ++ brought.toList) }

/-- Calls the consumer of a channel for a message. -/
def serve (traffic : Traffic) (worker : Nat) (channel : String) (message : Message) : Traffic :=
  match traffic.site.registry.consumer? channel with
  | none =>
      { traffic.withStation worker .idle with
        site := traffic.site.report (.warning "No consumer for channel, dropping message") }
  | some consumer =>
      let context : Context := ⟨channel, traffic.site.backend.label⟩
      { traffic.withStation worker (.busy traffic.calls.length) with
        calls := traffic.calls ++
          [{ message, context, strand := .ready (consumer.consume message context) }] }

/-- A worker goes on with what a receiver brought. -/
def accept (traffic : Traffic) (worker : Nat) : Receipt → Traffic
  | .received channel message => traffic.serve worker channel message
  | .nothing => traffic.withStation worker .idle
  | .waiting waiting => traffic.withStation worker (.waiting waiting)

/-- A worker without a call looks for a message, or goes on to. -/
def look (traffic : Traffic) (worker : Nat) (order : List String) (block : Bool) : Traffic :=
  match traffic.stations worker with
  | .busy _ => traffic
  | .idle =>
      match traffic.site.backend.receive traffic.now order block with
      | (.error _, backend) => traffic.withBackend backend
      | (.ok receipt, backend) => (traffic.withBackend backend).accept worker receipt
  | .waiting waiting =>
      let (receipt, backend) :=
        traffic.site.backend.resume traffic.now { waiting with channels := order }
      (traffic.withBackend backend).accept worker receipt

/-- A call goes on. -/
def act (traffic : Traffic) (number : Nat) (call : Call) : Traffic :=
  let (strand, site, performed) := call.strand.step traffic.site traffic.now
  { traffic with
    site
    calls := traffic.calls.set number { call with strand, trace := call.trace ++ performed } }

/-- Makes a move. -/
def move (clients : Nat → Client) (traffic : Traffic) : Move → Traffic
  | .wait duration => { traffic with now := traffic.now + duration }
  | .announce => traffic.withBackend traffic.site.backend.announce
  | .ask number => traffic.ask (clients number) number
  | .read number => traffic.read number
  | .look worker order block =>
      if order.Perm traffic.site.registry.channels then traffic.look worker order block
      else traffic
  | .work worker =>
      match traffic.stations worker with
      | .busy number =>
          match traffic.calls[number]? with
          | some call => traffic.act number call
          | none => traffic
      | _ => traffic
  | .finish worker =>
      match traffic.stations worker with
      | .busy number =>
          match traffic.calls[number]?.map Call.strand with
          | some (.ready (.done outcome)) =>
              { traffic.withStation worker .idle with
                site := traffic.site.reportAll outcome.report?.toList }
          | _ => traffic
      | _ => traffic

/-- Makes moves one after another. -/
def run (clients : Nat → Client) (traffic : Traffic) (moves : List Move) : Traffic :=
  moves.foldl (move clients) traffic

/-- A site on which nobody has asked yet. -/
def start (site : Site) (now : Instant) : Traffic := { now, site }

/-- No message that waits in a channel has expired. -/
def Alive (traffic : Traffic) : Prop :=
  ∀ channel, ∀ queued ∈ traffic.site.backend.store.queue channel, queued.live traffic.now = true

theorem run_append (clients : Nat → Client) (traffic : Traffic) (first second : List Move) :
    traffic.run clients (first ++ second) = (traffic.run clients first).run clients second :=
  List.foldl_append

theorem run_snoc (clients : Nat → Client) (traffic : Traffic) (moves : List Move) (move : Move) :
    traffic.run clients (moves ++ [move]) = (traffic.run clients moves).move clients move :=
  run_append clients traffic moves [move]

end Traffic

end Courier.Http
