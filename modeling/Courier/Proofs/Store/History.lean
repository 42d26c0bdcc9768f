import Courier.Proofs.Store.Operations

/-!
# Histories of a store

A history is what callers see of a store that starts empty: calls one after another, each with its
moment and its answer. Receivers do not block here, and each of them goes through its channels in an
order of its own choosing.

Over a whole history every queue stays timely, and the messages of a channel can be accounted for:
the accepted ones are, in this order, those with a fate and those that still wait.
-/

namespace Courier.Store

/-- A call on a store. A receiver goes through its channels in some order. -/
inductive Call where
  | send (channel : String) (message : Message)
  | receive (channels order : List String) (shuffled : order.Perm channels)
  | queued (channel : String)
  | flush

/-- What a call is answered with. -/
inductive Reply where
  | sent (result : Except ChannelError Unit)
  | received (receipt : Receipt)
  | counted (number : Nat)
  | flushed

/-- A call with its moment and its answer. -/
structure Event where
  time : Instant
  call : Call
  reply : Reply

/-- Performs a call. -/
def perform (store : Store) (now : Instant) : Call → Reply × Store
  | .send channel message =>
      let (result, store) := store.send now channel message
      (.sent result, store)
  | .receive _ order _ =>
      let (receipt, store) := store.receive now order false
      (.received receipt, store)
  | .queued channel => (.counted (store.queued now channel), store)
  | .flush => (.flushed, store.flush)

/-- The stores that calls lead to from an empty one, with the moment of the last call and all
events so far. -/
inductive History (settings : StoreSettings) : Instant → List Event → Store → Prop where
  | fresh (now : Instant) : History settings now [] { settings }
  | next {earlier now : Instant} {events : List Event} {store : Store}
      (history : History settings earlier events store) (le : earlier ≤ now) (call : Call) :
      History settings now (events ++ [⟨now, call, (store.perform now call).1⟩])
        (store.perform now call).2

namespace Event

/-- The message that an event put into the queue of a channel. -/
def accepted? (settings : StoreSettings) (channel : String) (event : Event) : Option Queued :=
  match event.call, event.reply with
  | .send target message, .sent (.ok ()) =>
      if target = channel then some ⟨message, event.time + settings.messageExpiry⟩ else none
  | _, _ => none

/-- The message of a channel that an event delivered. -/
def delivered? (channel : String) (event : Event) : Option Message :=
  match event.reply with
  | .received (.received source message) => if source = channel then some message else none
  | _ => none

end Event

/-- The messages that a channel accepted, in order. -/
def accepted (settings : StoreSettings) (channel : String) (events : List Event) : List Queued :=
  events.filterMap (Event.accepted? settings channel)

/-- The messages that a channel delivered, in order. -/
def delivered (channel : String) (events : List Event) : List Message :=
  events.filterMap (Event.delivered? channel)

@[simp]
theorem accepted_append (settings : StoreSettings) (channel : String) (first second : List Event) :
    accepted settings channel (first ++ second) =
      accepted settings channel first ++ accepted settings channel second :=
  List.filterMap_append

@[simp]
theorem delivered_append (channel : String) (first second : List Event) :
    delivered channel (first ++ second) = delivered channel first ++ delivered channel second :=
  List.filterMap_append

theorem accepted_singleton (settings : StoreSettings) (channel : String) (event : Event) :
    accepted settings channel [event] = (event.accepted? settings channel).toList := by
  cases found : event.accepted? settings channel <;> simp [accepted, found]

theorem delivered_singleton (channel : String) (event : Event) :
    delivered channel [event] = (event.delivered? channel).toList := by
  cases found : event.delivered? channel <;> simp [delivered, found]

@[simp]
theorem settings_perform (store : Store) (now : Instant) (call : Call) :
    (store.perform now call).2.settings = store.settings := by
  cases call with
  | send channel message => exact (send_eq store now channel message).2.1
  | receive channels order _ => simp [perform, receive_eq_take]
  | queued channel => rfl
  | flush => rfl

/-- Every call but a flush makes one step of every queue. -/
theorem perform_queueStep (store : Store) (now : Instant) {call : Call} (kept : call ≠ .flush)
    (channel : String) :
    QueueStep now (store.queue channel)
      (Event.accepted? store.settings channel ⟨now, call, (store.perform now call).1⟩)
      (Event.delivered? channel ⟨now, call, (store.perform now call).1⟩)
      ((store.perform now call).2.queue channel) := by
  cases call with
  | send target message =>
      have sent := send_eq store now target message
      simp only [perform, Event.accepted?, Event.delivered?, sent.1, sent.2.2 channel]
      by_cases same : target = channel
      · subst same
        rcases push_spec store now target message with
          ⟨-, refused, step⟩ | ⟨-, accepted, step⟩
        · rw [refused]
          exact step
        · simpa [accepted] using step
      · rw [queue_push_of_ne store now target message (Ne.symm same)]
        cases (store.push now target message).1 with
        | ok _ => simpa [same] using QueueStep.refl now _
        | error _ => exact .refl now _
  | receive channels order _ =>
      simp only [perform, Event.accepted?, Event.delivered?, receive_eq_take]
      rcases take_spec store now order with
        ⟨nothing, -, steps⟩ | ⟨source, -, message, taken, sourceStep, otherSteps⟩
      · simpa [nothing, receiptOf] using steps channel
      · by_cases same : source = channel
        · subst same
          simpa [taken, receiptOf] using sourceStep
        · simpa [taken, receiptOf, same] using otherSteps channel (Ne.symm same)
  | queued target => exact .refl now _
  | flush => exact absurd rfl kept

/-- A call that neither sends to a channel nor receives from it, and leaves its queue alone. -/
def Call.avoids (channel : String) : Call → Bool
  | .send target _ => target != channel
  | .receive channels _ _ => !channels.contains channel
  | .queued _ => true
  | .flush => false

/-- A call that avoids a channel at most drops expired messages from its queue. -/
theorem queueStep_of_avoids (store : Store) (now : Instant) {call : Call} {channel : String}
    (avoided : call.avoids channel = true) :
    QueueStep now (store.queue channel) none none ((store.perform now call).2.queue channel) := by
  cases call with
  | send target message =>
      have differ : channel ≠ target := by
        simp only [Call.avoids, bne_iff_ne, ne_eq] at avoided
        exact Ne.symm avoided
      have sent := (send_eq store now target message).2.2 channel
      change QueueStep now _ _ _ ((store.send now target message).2.queue channel)
      rw [sent, queue_push_of_ne store now target message differ]
      exact .refl now _
  | receive channels order shuffled =>
      have step := queueStep_receive store now channel order false
      have concerns := concerns_receive store now order false
      have nothing : (store.receive now order false).1.from? channel = none := by
        generalize (store.receive now order false).1 = receipt at concerns ⊢
        rcases receipt with ⟨source, message⟩ | _ | _
        · have differ : source ≠ channel := by
            intro same
            subst same
            have listed : source ∈ channels := shuffled.mem_iff.mp concerns
            simp [Call.avoids, listed] at avoided
          exact if_neg differ
        · rfl
        · rfl
      rw [nothing] at step
      exact step
  | queued target => exact .refl now _
  | flush => cases avoided

theorem Event.expiresAt_of_accepted? {settings : StoreSettings} {channel : String} {event : Event}
    {queued : Queued} (accepted : event.accepted? settings channel = some queued) :
    queued.expiresAt = event.time + settings.messageExpiry := by
  simp only [Event.accepted?] at accepted
  split at accepted
  · split at accepted
    · cases accepted
      rfl
    · simp at accepted
  · simp at accepted

/-- What became of the messages of a channel: those in the ledger do not wait any more, and the
others do. -/
structure Accounts (settings : StoreSettings) (now : Instant) (channel : String)
    (events : List Event) (ledger : Ledger) (waiting : List Queued) : Prop where
  accepted : accepted settings channel events = ledger.entries ++ waiting
  delivered : delivered channel events = ledger.delivered
  expired : ∀ queued, (queued, .expired) ∈ ledger → queued.expiresAt ≤ now
  /-- What was flushed had been accepted before some flush. -/
  flushed : ∀ index queued, ledger[index]? = some (queued, .flushed) →
    ∃ before flush after, events = before ++ flush :: after ∧ flush.call = .flush ∧
      index < (Store.accepted settings channel before).length

namespace Accounts

variable {settings : StoreSettings} {earlier now : Instant} {channel : String}
  {events : List Event} {ledger : Ledger} {waiting : List Queued}

/-- An event that moves messages from the queue to the ledger by delivery and expiry only. -/
theorem extend (accounts : Accounts settings earlier channel events ledger waiting)
    (le : earlier ≤ now) {event : Event} {more : Ledger} {after : List Queued}
    (conserved : waiting ++ (event.accepted? settings channel).toList = more.entries ++ after)
    (deliveredMore : more.delivered = (event.delivered? channel).toList)
    (fates : ∀ entry ∈ more, (entry.2 = .delivered ∧ now < entry.1.expiresAt) ∨
      (entry.2 = .expired ∧ entry.1.expiresAt ≤ now)) :
    Accounts settings now channel (events ++ [event]) (ledger ++ more) after := by
  refine ⟨?_, ?_, ?_, ?_⟩
  · rw [accepted_append, accounts.accepted, accepted_singleton, List.append_assoc, conserved,
      Ledger.entries_append, List.append_assoc]
  · rw [delivered_append, accounts.delivered, delivered_singleton, Ledger.delivered_append,
      deliveredMore]
  · intro queued mem
    rcases List.mem_append.mp mem with old | new
    · exact Nat.le_trans (accounts.expired queued old) le
    · rcases fates _ new with ⟨other, -⟩ | ⟨-, expired⟩
      · simp at other
      · exact expired
  · intro index queued found
    have old : ledger[index]? = some (queued, .flushed) := by
      rw [List.getElem?_append] at found
      split at found
      · exact found
      · rcases fates _ (List.mem_of_getElem? found) with ⟨other, -⟩ | ⟨other, -⟩ <;>
          simp at other
    rcases accounts.flushed index queued old with ⟨before, flush, after, split, isFlush, bound⟩
    exact ⟨before, flush, after ++ [event], by simp [split], isFlush, bound⟩

theorem flush (accounts : Accounts settings earlier channel events ledger waiting)
    (le : earlier ≤ now) :
    Accounts settings now channel (events ++ [⟨now, .flush, .flushed⟩])
      (ledger ++ Ledger.uniform .flushed waiting) [] := by
  refine ⟨?_, ?_, ?_, ?_⟩
  · rw [accepted_append, accounts.accepted, accepted_singleton]
    simp [Event.accepted?]
  · rw [delivered_append, accounts.delivered, delivered_singleton, Ledger.delivered_append,
      Ledger.delivered_uniform (by decide)]
    simp [Event.delivered?]
  · intro queued mem
    rcases List.mem_append.mp mem with old | new
    · exact Nat.le_trans (accounts.expired queued old) le
    · rw [Ledger.mem_uniform] at new
      simp at new
  · intro index queued found
    refine ⟨events, ⟨now, .flush, .flushed⟩, [], rfl, rfl, ?_⟩
    have inBounds := (List.getElem?_eq_some_iff.mp found).1
    rw [accounts.accepted]
    simpa [Ledger.entries, Ledger.uniform] using inBounds

/-- What waits in vain may be counted as expired. -/
theorem expire (accounts : Accounts settings now channel events ledger waiting)
    {gone kept : List Queued} (split : waiting = gone ++ kept)
    (expired : ∀ queued ∈ gone, queued.live now = false) :
    Accounts settings now channel events (ledger ++ Ledger.uniform .expired gone) kept := by
  refine ⟨?_, ?_, ?_, ?_⟩
  · simp [accounts.accepted, split]
  · rw [accounts.delivered, Ledger.delivered_append, Ledger.delivered_uniform (by decide)]
    simp
  · intro queued mem
    rcases List.mem_append.mp mem with old | new
    · exact accounts.expired queued old
    · rw [Ledger.mem_uniform] at new
      exact Queued.not_live_iff.mp (expired queued new.1)
  · intro index queued found
    apply accounts.flushed index queued
    rw [List.getElem?_append] at found
    split at found
    · exact found
    · have mem := List.mem_of_getElem? found
      rw [Ledger.mem_uniform] at mem
      simp at mem

end Accounts

namespace History

variable {settings : StoreSettings} {now : Instant} {events : List Event} {store : Store}

theorem settings_eq (history : History settings now events store) : store.settings = settings := by
  induction history with
  | fresh _ => rfl
  | next _ _ call ih => rw [settings_perform, ih]

/-- The messages of every channel expire in the order of the queue, and none later than one that is
sent now. -/
theorem timely (history : History settings now events store) (channel : String) :
    Timely (now + settings.messageExpiry) (store.queue channel) := by
  induction history with
  | fresh _ => exact Timely.nil _
  | @next earlier now events store history le call ih =>
      by_cases isFlush : call = .flush
      · subst isFlush
        exact Timely.nil _
      · have step := perform_queueStep store now isFlush channel
        rw [history.settings_eq] at step
        apply step.timely (Nat.add_le_add_right le settings.messageExpiry) _ ih
        intro queued accepted
        exact Event.expiresAt_of_accepted? accepted

/-- The messages of every channel can be accounted for. -/
theorem accounts (history : History settings now events store) (channel : String) :
    ∃ ledger, Accounts settings now channel events ledger (store.queue channel) := by
  induction history with
  | fresh _ => exact ⟨[], rfl, rfl, by simp, by simp⟩
  | @next earlier now events store history le call ih =>
      rcases ih with ⟨ledger, accounts⟩
      by_cases isFlush : call = .flush
      · subst isFlush
        exact ⟨_, accounts.flush le⟩
      · have step := perform_queueStep store now isFlush channel
        rw [history.settings_eq] at step
        rcases step.settle with ⟨more, conserved, deliveredMore, fates⟩
        exact ⟨_, accounts.extend le conserved deliveredMore fates⟩

/-- The messages of every channel can be accounted for such that only live ones wait. -/
theorem accounts_live (history : History settings now events store) (channel : String) :
    ∃ ledger, Accounts settings now channel events ledger
      ((store.queue channel).filter (Queued.live now)) := by
  rcases history.accounts channel with ⟨ledger, accounts⟩
  rcases trim_split now (store.queue channel) with ⟨gone, split, expired⟩
  rw [trim_eq_filter now (history.timely channel)] at split
  exact ⟨_, accounts.expire split expired⟩

end History

end Courier.Store
