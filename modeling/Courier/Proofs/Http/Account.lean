import Courier.Proofs.Http.Traffic

/-!
# An account of the traffic

What matters of a move is what it does to the requests that were accepted, to the exchanges, to what
clients have read and consumers have performed, and to the messages that wait in each channel. As
long as no message expires, every move is one of six steps of such an account: nothing happens, a
client is refused, it asks, its request is taken by a worker, a call goes on, or a client reads.
Everything about a whole run is proved of these steps.
-/

namespace Courier

namespace Backend

/-- The messages that wait in a channel. -/
def messages (backend : Backend) (channel : String) : List Message :=
  (backend.store.queue channel).map Queued.message

variable {before after : Backend} {now : Instant} {channel : String}

/-- As long as nothing has expired, a queue changes by what is added and taken only. -/
theorem messages_of_queueStep {added : Option Queued} {taken : Option Message}
    (step : QueueStep now (before.store.queue channel) added taken (after.store.queue channel))
    (alive : ∀ queued ∈ before.store.queue channel, queued.live now = true) :
    before.messages channel ++ (added.map Queued.message).toList =
      taken.toList ++ after.messages channel :=
  step.conserved_of_alive alive

theorem messages_of_taken {taken : Option Message}
    (step : QueueStep now (before.store.queue channel) none taken (after.store.queue channel))
    (alive : ∀ queued ∈ before.store.queue channel, queued.live now = true) :
    before.messages channel = taken.toList ++ after.messages channel :=
  step.split_of_alive alive

theorem messages_of_untouched
    (step : QueueStep now (before.store.queue channel) none none (after.store.queue channel))
    (alive : ∀ queued ∈ before.store.queue channel, queued.live now = true) :
    after.messages channel = before.messages channel :=
  (step.split_of_alive alive).symm

end Backend

namespace Http

/-- What has happened so far, and the messages that wait in each channel. -/
structure Account where
  exchanges : Nat → Option Exchange
  requests : List Message
  calls : List Call
  reads : Nat → List Message
  messages : String → List Message

/-- The account of clients and workers on a site. -/
def Traffic.account (traffic : Traffic) : Account where
  exchanges := traffic.exchanges
  requests := traffic.requests
  calls := traffic.calls
  reads := traffic.reads
  messages := traffic.site.backend.messages

namespace Account

/-- Where only one channel is touched, the messages in all others stay. -/
def KeptBut (channel : String) (before after : String → List Message) : Prop :=
  ∀ other, other ≠ channel → after other = before other

/-- What may happen to an account, where `consume` is what is done about a request. -/
inductive Step (clients : Nat → Client) (consume : Message → Context → Program Outcome)
    (account : Account) : Account → Prop
  | stay {messages : String → List Message}
      (kept : ∀ channel, messages channel = account.messages channel) :
      Step clients consume account { account with messages }
  | refuse {number : Nat} (unbegun : account.exchanges number = none) (error : Error)
      {messages : String → List Message}
      (kept : ∀ channel, messages channel = account.messages channel) :
      Step clients consume account
        { account with
          exchanges := Function.update account.exchanges number
            (some ((clients number).exchange (.failed error)))
          messages }
  | ask {number : Nat} (unbegun : account.exchanges number = none) {message : Message}
      (asks : (clients number).message = .ok message) (deadline : Instant)
      {messages : String → List Message}
      (added : messages RequestPayload.channel =
        account.messages RequestPayload.channel ++ [message])
      (kept : KeptBut RequestPayload.channel account.messages messages) :
      Step clients consume account
        { account with
          exchanges := Function.update account.exchanges number
            (some ((clients number).exchange (.awaitingHead (.asking deadline))))
          requests := account.requests ++ [message]
          messages }
  | serve {message : Message} {context : Context} (on : context.channel = RequestPayload.channel)
      {messages : String → List Message}
      (taken : account.messages RequestPayload.channel =
        message :: messages RequestPayload.channel)
      (kept : KeptBut RequestPayload.channel account.messages messages) :
      Step clients consume account
        { account with
          calls := account.calls ++
            [{ message, context, strand := .ready (consume message context) }]
          messages }
  | act {number : Nat} {call : Call} (found : account.calls[number]? = some call)
      {strand : Strand Outcome} {performed : Trace}
      (run : ∀ (program : Program Outcome) (trace : Trace),
        Program.Run program trace call.strand.rest →
          Program.Run program (trace ++ performed) strand.rest)
      {messages : String → List Message}
      (added : ∀ channel,
        messages channel = account.messages channel ++ performed.accepted channel) :
      Step clients consume account
        { account with
          calls := account.calls.set number { call with strand, trace := call.trace ++ performed }
          messages }
  | read {number : Nat} {exchange next : Exchange}
      (found : account.exchanges number = some exchange) {brought : Option Message}
      (follows : next.Follows (clients number).replyChannel
        (account.reads number ++ brought.toList))
      {messages : String → List Message}
      (taken : account.messages (clients number).replyChannel =
        brought.toList ++ messages (clients number).replyChannel)
      (kept : KeptBut (clients number).replyChannel account.messages messages) :
      Step clients consume account
        { account with
          exchanges := Function.update account.exchanges number (some next)
          reads := Function.update account.reads number
            (account.reads number ++ brought.toList)
          messages }

end Account

namespace Traffic

variable {clients : Nat → Client} {consumer : Consumer} {traffic : Traffic}

/-! ## Moves of clients -/

theorem step_ask (alive : traffic.Alive) (number : Nat) :
    Account.Step clients consumer.consume traffic.account
      (traffic.ask (clients number) number).account := by
  rw [ask]
  cases begun : traffic.exchanges number with
  | some exchange => exact Account.Step.stay fun _ => rfl
  | none =>
      rw [Client.ask]
      cases asks : (clients number).message with
      | error error =>
          dsimp only
          rw [Option.toList_none, List.append_nil]
          exact Account.Step.refuse begun error fun _ => rfl
      | ok message =>
          rcases traffic.site.backend.push_cases traffic.now RequestPayload.channel message with
            ⟨error, after, refused, steps⟩ | ⟨queued, after, accepted, isMessage, steps⟩
          · dsimp only
            rw [refused]
            dsimp only
            rw [Option.toList_none, List.append_nil]
            apply Account.Step.refuse begun (.channel error)
            intro channel
            exact Backend.messages_of_untouched (steps channel) (alive channel)
          · dsimp only
            rw [accepted]
            have added := Backend.messages_of_queueStep (steps RequestPayload.channel) (alive _)
            rw [if_pos rfl, Option.map_some, isMessage] at added
            refine Account.Step.ask begun asks _ added.symm ?_
            intro other differ
            have step := steps other
            rw [if_neg (Ne.symm differ)] at step
            exact Backend.messages_of_untouched step (alive other)

theorem step_read (alive : traffic.Alive) (number : Nat)
    (follows : ∀ exchange, traffic.exchanges number = some exchange →
      exchange.Follows (clients number).replyChannel (traffic.reads number)) :
    Account.Step clients consumer.consume traffic.account (traffic.read number).account := by
  rw [read]
  cases found : traffic.exchanges number with
  | none => exact Account.Step.stay fun _ => rfl
  | some exchange =>
      rcases (follows exchange found).step traffic.site traffic.now with ⟨next, takes⟩
      apply Account.Step.read found next (Backend.messages_of_taken takes.queue (alive _))
      intro other differ
      exact Backend.messages_of_untouched (takes.others other differ) (alive other)

/-! ## Moves of workers -/

theorem step_untouched {after : Traffic} (alive : traffic.Alive)
    (exchanges : after.exchanges = traffic.exchanges) (requests : after.requests = traffic.requests)
    (calls : after.calls = traffic.calls) (reads : after.reads = traffic.reads)
    (queues : ∀ channel, QueueStep traffic.now (traffic.site.backend.store.queue channel) none none
      (after.site.backend.store.queue channel)) :
    Account.Step clients consumer.consume traffic.account after.account := by
  rw [account, account, exchanges, requests, calls, reads]
  exact Account.Step.stay fun channel =>
    Backend.messages_of_untouched (queues channel) (alive channel)

theorem step_accept (alive : traffic.Alive)
    (served : traffic.site.registry.consumer? RequestPayload.channel = some consumer)
    (silent : ∀ channel ∈ traffic.site.registry.channels, channel ≠ RequestPayload.channel →
      traffic.account.messages channel = [])
    (worker : Nat) {order : List String} (perm : order.Perm traffic.site.registry.channels)
    {receipt : Receipt} {backend : Backend} (concerns : receipt.Concerns order)
    (queues : ∀ channel, QueueStep traffic.now (traffic.site.backend.store.queue channel) none
      (receipt.from? channel) (backend.store.queue channel)) :
    Account.Step clients consumer.consume traffic.account
      ((traffic.withBackend backend).accept worker receipt).account := by
  cases receipt with
  | nothing => exact step_untouched alive rfl rfl rfl rfl queues
  | waiting waiting => exact step_untouched alive rfl rfl rfl rfl queues
  | received source message =>
      have taken := Backend.messages_of_taken (queues source) (alive source)
      rw [Receipt.from?, if_pos rfl, Option.toList_some, List.singleton_append] at taken
      have isRequest : source = RequestPayload.channel := by
        by_contra other
        have nothing := silent source (perm.mem_iff.mp concerns) other
        change traffic.site.backend.messages source = [] at nothing
        rw [taken] at nothing
        cases nothing
      subst isRequest
      have isServed : (traffic.withBackend backend).site.registry.consumer? RequestPayload.channel =
          some consumer := served
      rw [accept, serve, isServed]
      refine Account.Step.serve rfl taken ?_
      intro other differ
      have step := queues other
      rw [Receipt.from?, if_neg (Ne.symm differ)] at step
      exact Backend.messages_of_untouched step (alive other)

theorem step_look (alive : traffic.Alive)
    (served : traffic.site.registry.consumer? RequestPayload.channel = some consumer)
    (silent : ∀ channel ∈ traffic.site.registry.channels, channel ≠ RequestPayload.channel →
      traffic.account.messages channel = [])
    (worker : Nat) {order : List String} (perm : order.Perm traffic.site.registry.channels)
    (block : Bool) :
    Account.Step clients consumer.consume traffic.account
      (traffic.look worker order block).account := by
  rw [look]
  cases traffic.stations worker with
  | busy number => exact Account.Step.stay fun _ => rfl
  | waiting waiting =>
      exact step_accept alive served silent worker perm
        (traffic.site.backend.store.concerns_resume traffic.now { waiting with channels := order })
        fun channel => traffic.site.backend.store.queueStep_resume traffic.now channel _
  | idle =>
      rcases traffic.site.backend.receive_reaches_or_fails traffic.now order block with
        reached | ⟨error, failed⟩
      · rw [reached]
        exact step_accept alive served silent worker perm
          (traffic.site.backend.store.concerns_receive traffic.now order block)
          fun channel => traffic.site.backend.store.queueStep_receive traffic.now channel order block
      · rw [failed]
        exact Account.Step.stay fun _ => rfl

theorem step_act (alive : traffic.Alive) {number : Nat} {call : Call}
    (found : traffic.calls[number]? = some call) :
    Account.Step clients consumer.consume traffic.account (traffic.act number call).account := by
  have steps := call.strand.steps_step traffic.site traffic.now
  refine Account.Step.act found steps.run ?_
  intro channel
  rcases steps.queue channel with ⟨added, step, accepted⟩
  rw [accepted]
  exact (Backend.messages_of_queueStep step (alive channel)).symm

/-- As long as no message has expired, and nothing waits in other channels with consumers, a move is
a step of the account. -/
theorem step_move (alive : traffic.Alive)
    (served : traffic.site.registry.consumer? RequestPayload.channel = some consumer)
    (silent : ∀ channel ∈ traffic.site.registry.channels, channel ≠ RequestPayload.channel →
      traffic.account.messages channel = [])
    (follows : ∀ number exchange, traffic.exchanges number = some exchange →
      exchange.Follows (clients number).replyChannel (traffic.reads number)) (move : Move) :
    Account.Step clients consumer.consume traffic.account (traffic.move clients move).account := by
  have stays : Account.Step clients consumer.consume traffic.account traffic.account :=
    Account.Step.stay fun _ => rfl
  cases move with
  | wait duration => exact stays
  | announce => exact stays
  | ask number => exact step_ask alive number
  | read number => exact step_read alive number (follows number)
  | look worker order block =>
      rw [Traffic.move]
      split
      case isTrue perm => exact step_look alive served silent worker perm block
      case isFalse => exact stays
  | work worker =>
      rw [Traffic.move]
      split
      · split
        · rename_i call found
          exact step_act alive found
        · exact stays
      · exact stays
  | finish worker =>
      rw [Traffic.move]
      split
      · split
        · refine step_untouched alive rfl rfl rfl rfl ?_
          intro channel
          rw [Site.backend_reportAll]
          exact .refl traffic.now _
        · exact stays
      · exact stays

/-! ## What stays -/

theorem registry_accept (traffic : Traffic) (worker : Nat) (receipt : Receipt) :
    (traffic.accept worker receipt).site.registry = traffic.site.registry := by
  cases receipt with
  | nothing => rfl
  | waiting waiting => rfl
  | received source message =>
      rw [accept, serve]
      split
      · rfl
      · rfl

theorem registry_look (traffic : Traffic) (worker : Nat) (order : List String) (block : Bool) :
    (traffic.look worker order block).site.registry = traffic.site.registry := by
  rw [look]
  split
  · rfl
  · split
    · rfl
    · exact registry_accept _ worker _
  · exact registry_accept _ worker _

theorem registry_move (clients : Nat → Client) (traffic : Traffic) (move : Move) :
    (traffic.move clients move).site.registry = traffic.site.registry := by
  cases move with
  | wait duration => rfl
  | announce => rfl
  | ask number =>
      rw [Traffic.move, ask]
      split
      · rfl
      · rfl
  | read number =>
      rw [Traffic.move, read]
      split
      · rfl
      · exact Exchange.registry_step _ traffic.site traffic.now
  | look worker order block =>
      rw [Traffic.move]
      split
      · exact registry_look traffic worker order block
      · rfl
  | work worker =>
      rw [Traffic.move]
      split
      · split
        · rename_i call found
          exact (call.strand.steps_step traffic.site traffic.now).registry
        · rfl
      · rfl
  | finish worker =>
      rw [Traffic.move]
      split
      · split
        · rw [Site.registry_reportAll]
        · rfl
      · rfl

end Traffic

end Http

end Courier
