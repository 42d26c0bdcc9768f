import Courier.Proofs.Http.Collecting
import Courier.Proofs.Http.Sending
import Courier.Proofs.Store.History

/-!
# A response between its sender and its reader

A sender and the one reader of a channel share a store, and make their steps in any order at any
pace. Putting a message into its queue and announcing it are two steps of the sender, and so are a
pause and its end. The reader starts to receive, blocking or not, or goes on to; what it receives it
pushes into its collector. In between time passes, and others use other channels of the store.

The state also holds what the sender performed and what the reader received. Each of the two is
followed by an invariant of its own. For the sender it is that its trace leads to the rest of its
program; for the channel it is a ledger, in which every accepted message that no longer waits was
read or had expired.

Chunks have no numbers. A chunk in the middle that expires before it is read is missing from what
the reader collects, and neither side takes notice, so the amount of time that passes matters.
-/

namespace Courier.Http

/-! ## States and steps -/

/-- A sender between two steps: about to go on, about to announce a message, or waiting. -/
inductive Sender where
  | ready (rest : Program (Except Error Unit))
  | announcing (rest : Program (Except Error Unit))
  | pausing (wakeAt : Instant) (rest : Program (Except Error Unit))

namespace Sender

/-- What a sender has still to do. -/
def rest : Sender → Program (Except Error Unit)
  | .ready rest | .announcing rest | .pausing _ rest => rest

/-- A sender behind an attempt to send: what was accepted is to be announced. -/
def behind (result : Except ChannelError Unit) (rest : Program (Except Error Unit)) : Sender :=
  match result with
  | .ok () => .announcing rest
  | .error _ => .ready rest

/-- Performs the next action of a program, if it is one of those that a sender performs. -/
def perform (now : Instant) (store : Store) :
    Program (Except Error Unit) → Sender × Store × Trace
  | .perform (.send channel message) next =>
      let (result, store) := store.push now channel message
      (behind result (next result), store, [⟨.send channel message, result⟩])
  | .perform (.pause duration) next =>
      (.pausing (now + duration) (next ()), store, [⟨.pause duration, ()⟩])
  | .perform (.report entry) next => (.ready (next ()), store, [⟨.report entry, ()⟩])
  | program => (.ready program, store, [])

/-- Makes a step of a sender; also gives what was performed. -/
def step (now : Instant) (store : Store) : Sender → Sender × Store × Trace
  | .ready rest => perform now store rest
  | .announcing rest => (.ready rest, store.announce, [])
  | .pausing wakeAt rest =>
      if wakeAt ≤ now then (.ready rest, store, []) else (.pausing wakeAt rest, store, [])

end Sender

/-- A response on its way: the time, the store, the sender, and the reader with what it waits for
and what it has collected; besides, what was performed and what was received. -/
structure Transfer where
  now : Instant
  store : Store
  sender : Sender
  waiting : Option Waiting := none
  collector : Except Error Collector := .ok {}
  trace : Trace := []
  received : List Message := []

namespace Transfer

/-- What may happen next. -/
inductive Move where
  | wait (duration : Duration)
  | send
  | read (block : Bool)
  | other (call : Store.Call)

/-- The reader takes what a receipt brings. -/
def take (transfer : Transfer) : Receipt → Transfer
  | .received _ message =>
      { transfer with
        waiting := none
        received := transfer.received ++ [message]
        collector := transfer.collector.bind fun collector => collector.push message }
  | .nothing => { transfer with waiting := none }
  | .waiting waiting => { transfer with waiting := some waiting }

/-- The reader starts to receive, or goes on to. -/
def look (channel : String) (block : Bool) (transfer : Transfer) : Receipt × Store :=
  match transfer.waiting with
  | none => transfer.store.receive transfer.now [channel] block
  | some waiting => transfer.store.resume transfer.now waiting

/-- Makes a move. -/
def move (channel : String) (transfer : Transfer) : Move → Transfer
  | .wait duration => { transfer with now := transfer.now + duration }
  | .send =>
      let (sender, store, performed) := transfer.sender.step transfer.now transfer.store
      { transfer with sender, store, trace := transfer.trace ++ performed }
  | .read block =>
      let (receipt, store) := transfer.look channel block
      { transfer with store }.take receipt
  | .other call =>
      if call.avoids channel then
        { transfer with store := (transfer.store.perform transfer.now call).2 }
      else transfer

/-- A response that is about to be sent to a channel of a store without messages. -/
def start (settings : HttpSettings) (storeSettings : StoreSettings) (channel : String)
    (response : Response) (now : Instant) : Transfer where
  now := now
  store := { settings := storeSettings }
  sender := .ready (sendResponse settings channel response)

/-- Makes moves one after another. -/
def run (channel : String) (transfer : Transfer) (moves : List Move) : Transfer :=
  moves.foldl (move channel) transfer

end Transfer

/-! ## The sender -/

namespace Sender

/-- What a step of a sender comes to: it performs what its program wants, and the queue of a channel
gets what is accepted on the channel. -/
structure Steps (channel : String) (now : Instant) (store : Store) (sender : Sender)
    (next : Sender × Store × Trace) : Prop where
  run : ∀ (program : Program (Except Error Unit)) (trace : Trace),
    Program.Run program trace sender.rest → Program.Run program (trace ++ next.2.2) next.1.rest
  settings : next.2.1.settings = store.settings
  queue : ∃ added, QueueStep now (store.queue channel) added none (next.2.1.queue channel) ∧
    next.2.2.accepted channel = (added.map Queued.message).toList ∧
    ∀ queued, added = some queued → queued.expiresAt = now + store.settings.messageExpiry

namespace Steps

variable {channel : String} {now : Instant} {store : Store}

theorem idle {sender next : Sender} (same : next.rest = sender.rest) :
    Steps channel now store sender (next, store, []) := by
  refine ⟨?_, rfl, none, .refl now _, rfl, ?_⟩
  · intro program trace run
    rw [List.append_nil, same]
    exact run
  · intro queued impossible
    cases impossible

theorem silent {sender next : Sender} {performed : Performed}
    (run : ∀ (program : Program (Except Error Unit)) (trace : Trace),
      Program.Run program trace sender.rest → Program.Run program (trace ++ [performed]) next.rest)
    (noAttempt : performed.attempt? = none) :
    Steps channel now store sender (next, store, [performed]) := by
  refine ⟨run, rfl, none, .refl now _, ?_, ?_⟩
  · simp [Trace.accepted, Trace.attempts, noAttempt]
  · intro queued impossible
    cases impossible

theorem send (target : String) (message : Message)
    (next : (Action.send target message).Answer → Program (Except Error Unit)) :
    Steps channel now store (.ready (.perform (.send target message) next))
      (Sender.perform now store (.perform (.send target message) next)) := by
  have settings := Store.settings_push store now target message
  rcases store.push_cases now target message with
    ⟨after, refused, steps⟩ | ⟨after, accepted, steps⟩
  · rw [refused] at settings
    rw [Sender.perform, refused]
    refine ⟨fun _ _ run => run.snoc _, settings, none, steps channel, ?_, ?_⟩
    · exact Trace.accepted_send_error channel target message _
    · intro queued impossible
      cases impossible
  · rw [accepted] at settings
    rw [Sender.perform, accepted]
    refine ⟨fun _ _ run => run.snoc _, settings, _, steps channel, ?_, ?_⟩
    · rw [Trace.accepted_send_ok]
      split
      · rfl
      · rfl
    · intro queued added
      split at added
      · cases added
        rfl
      · cases added

end Steps

theorem steps_step (channel : String) (now : Instant) (store : Store) (sender : Sender) :
    Steps channel now store sender (sender.step now store) := by
  cases sender with
  | announcing rest =>
      refine ⟨?_, rfl, none, .refl now _, rfl, ?_⟩
      · intro program trace run
        rw [step, List.append_nil]
        exact run
      · intro queued impossible
        cases impossible
  | pausing wakeAt rest =>
      rw [step]
      split
      · exact Steps.idle rfl
      · exact Steps.idle rfl
  | ready rest =>
      cases rest with
      | done result => exact Steps.idle rfl
      | perform action next =>
          cases action with
          | send target message => exact Steps.send target message next
          | pause duration => exact Steps.silent (fun _ _ run => run.snoc ()) rfl
          | report entry => exact Steps.silent (fun _ _ run => run.snoc ()) rfl
          | members _ | record _ _ | loadSession _ | saveSession _ _ | freshKey =>
              exact Steps.idle rfl

end Sender

/-! ## The invariant -/

namespace Transfer

/-- What holds after any moves: the trace leads to what the sender has still to do, the books of the
channel are kept, and the reader has collected what it received. -/
structure Sound (channel : String) (program : Program (Except Error Unit)) (begun : Instant)
    (expiry : Duration) (transfer : Transfer) (ledger : Ledger) : Prop where
  run : Program.Run program transfer.trace transfer.sender.rest
  books : Books begun expiry transfer.now (transfer.trace.accepted channel) transfer.received ledger
    (transfer.store.queue channel)
  collected : transfer.collector = Collector.pushEach {} transfer.received
  settings : transfer.store.settings.messageExpiry = expiry
  begun_le : begun ≤ transfer.now
  listening : ∀ waiting, transfer.waiting = some waiting → waiting.channels = [channel]

/-- What the reader of a channel receives is taken from the queue of the channel. -/
theorem look_spec {channel : String} (transfer : Transfer) (block : Bool)
    (listening : ∀ waiting, transfer.waiting = some waiting → waiting.channels = [channel]) :
    QueueStep transfer.now (transfer.store.queue channel) none
        ((transfer.look channel block).1.from? channel)
        ((transfer.look channel block).2.queue channel) ∧
      (transfer.look channel block).1.Concerns [channel] ∧
      (transfer.look channel block).2.settings = transfer.store.settings := by
  rw [look]
  cases waits : transfer.waiting with
  | none =>
      refine ⟨?_, ?_, ?_⟩
      · exact Store.queueStep_receive transfer.store transfer.now channel [channel] block
      · exact Store.concerns_receive transfer.store transfer.now [channel] block
      · exact Store.settings_receive transfer.store transfer.now [channel] block
  | some waiting =>
      have concerns := Store.concerns_resume transfer.store transfer.now waiting
      rw [listening waiting waits] at concerns
      refine ⟨?_, concerns, ?_⟩
      · exact Store.queueStep_resume transfer.store transfer.now channel waiting
      · exact Store.settings_resume transfer.store transfer.now waiting

namespace Sound

variable {channel : String} {program : Program (Except Error Unit)} {begun : Instant}
  {expiry : Duration} {transfer : Transfer} {ledger : Ledger}

theorem send (sound : Sound channel program begun expiry transfer ledger) :
    ∃ ledger, Sound channel program begun expiry (transfer.move channel .send) ledger := by
  have steps := Sender.steps_step channel transfer.now transfer.store transfer.sender
  rcases steps.queue with ⟨added, step, accepted, latest⟩
  have lives : ∀ queued, added = some queued → begun + expiry ≤ queued.expiresAt := by
    intro queued isAdded
    rw [latest queued isAdded, sound.settings]
    exact Nat.add_le_add_right sound.begun_le expiry
  rcases sound.books.step step lives with ⟨ledger, books⟩
  rw [← accepted, ← Trace.accepted_append, Option.toList_none, List.append_nil] at books
  refine ⟨ledger, steps.run program transfer.trace sound.run, books, sound.collected, ?_,
    sound.begun_le, sound.listening⟩
  change (transfer.sender.step transfer.now transfer.store).2.1.settings.messageExpiry = expiry
  rw [steps.settings, sound.settings]

theorem read (sound : Sound channel program begun expiry transfer ledger) (block : Bool) :
    ∃ ledger, Sound channel program begun expiry (transfer.move channel (.read block)) ledger := by
  rcases transfer.look_spec block sound.listening with ⟨step, concerns, settings⟩
  have lives : ∀ queued, (none : Option Queued) = some queued →
      begun + expiry ≤ queued.expiresAt := by
    intro queued impossible
    cases impossible
  rcases sound.books.step step lives with ⟨ledger, books⟩
  rw [Option.map_none, Option.toList_none, List.append_nil] at books
  have expires := sound.settings
  rw [← settings] at expires
  change ∃ ledger, Sound channel program begun expiry
    (take { transfer with store := (transfer.look channel block).2 }
      (transfer.look channel block).1) ledger
  generalize transfer.look channel block = looked at step concerns books expires ⊢
  rcases looked with ⟨receipt, store⟩
  cases receipt with
  | received source message =>
      have same : source = channel := List.mem_singleton.mp concerns
      have brought : (Receipt.received source message).from? channel = some message := if_pos same
      rw [brought] at books
      refine ⟨ledger, sound.run, books, ?_, expires, sound.begun_le, ?_⟩
      · change (transfer.collector.bind fun collector => collector.push message) =
          Collector.pushEach {} (transfer.received ++ [message])
        rw [Collector.pushEach_snoc, sound.collected]
      · intro waiting impossible
        cases impossible
  | nothing =>
      rw [Receipt.from?, Option.toList_none, List.append_nil] at books
      refine ⟨ledger, sound.run, books, sound.collected, expires, sound.begun_le, ?_⟩
      intro waiting impossible
      cases impossible
  | waiting left =>
      rw [Receipt.from?, Option.toList_none, List.append_nil] at books
      refine ⟨ledger, sound.run, books, sound.collected, expires, sound.begun_le, ?_⟩
      intro waiting same
      cases same
      exact concerns

theorem other (sound : Sound channel program begun expiry transfer ledger) (call : Store.Call) :
    ∃ ledger, Sound channel program begun expiry (transfer.move channel (.other call)) ledger := by
  rw [Transfer.move]
  split
  case isFalse => exact ⟨ledger, sound⟩
  case isTrue avoided =>
      have step := Store.queueStep_of_avoids transfer.store transfer.now avoided
      have lives : ∀ queued, (none : Option Queued) = some queued →
          begun + expiry ≤ queued.expiresAt := by
        intro queued impossible
        cases impossible
      rcases sound.books.step step lives with ⟨ledger, books⟩
      rw [Option.map_none, Option.toList_none, List.append_nil, List.append_nil] at books
      refine ⟨ledger, sound.run, books, sound.collected, ?_, sound.begun_le, sound.listening⟩
      change (transfer.store.perform transfer.now call).2.settings.messageExpiry = expiry
      rw [Store.settings_perform, sound.settings]

theorem move (sound : Sound channel program begun expiry transfer ledger) (move : Move) :
    ∃ ledger, Sound channel program begun expiry (transfer.move channel move) ledger := by
  cases move with
  | wait duration =>
      exact ⟨ledger, sound.run, sound.books.wait (Nat.le_add_right _ _), sound.collected,
        sound.settings, Nat.le_trans sound.begun_le (Nat.le_add_right _ _), sound.listening⟩
  | send => exact sound.send
  | read block => exact sound.read block
  | other call => exact sound.other call

theorem moves (sound : Sound channel program begun expiry transfer ledger) (moves : List Move) :
    ∃ ledger, Sound channel program begun expiry (transfer.run channel moves) ledger := by
  induction moves generalizing transfer ledger with
  | nil => exact ⟨ledger, sound⟩
  | cons move rest ih =>
      rcases sound.move move with ⟨next, soundNext⟩
      exact ih soundNext

end Sound

theorem sound_start (settings : HttpSettings) (storeSettings : StoreSettings) (channel : String)
    (response : Response) (now : Instant) :
    Sound channel (sendResponse settings channel response) now storeSettings.messageExpiry
      (.start settings storeSettings channel response now) [] where
  run := Program.Run.stop _
  books := ⟨rfl, rfl, fun _ mem => absurd mem List.not_mem_nil,
    fun _ mem => absurd mem List.not_mem_nil⟩
  collected := rfl
  settings := rfl
  begun_le := Nat.le_refl now
  listening := fun _ impossible => nomatch impossible

end Transfer

end Courier.Http
