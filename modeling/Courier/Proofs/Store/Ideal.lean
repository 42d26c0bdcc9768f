import Courier.Proofs.Store.History

/-!
# The ideal store

An ideal store keeps, for every channel, the messages that were accepted, not yet received and are
still alive. It knows nothing of expired messages that lie about in a queue, of queues that are
removed, or of the order in which a receiver goes through its channels.

Every history of a store is one of the ideal store: the answers are the same. The link between the
two is that they agree on what is alive. Only one operation could tell expired messages from live
ones, because it counts a queue instead of looking into it: a send to a channel with a limit. There
the timeliness of the queue is needed, by which trimming leaves just the live messages.
-/

namespace Courier

open Store (Call Reply Event History Accounts)

/-- The messages that each channel holds. -/
abbrev IdealStore := String → List Queued

namespace IdealStore

/-- No messages. -/
def empty : IdealStore := fun _ => []

/-- The messages that are still alive. -/
def live (ideal : IdealStore) (now : Instant) : IdealStore :=
  fun channel => (ideal channel).filter (Queued.live now)

/-- Replaces the messages of a channel. -/
def replace (ideal : IdealStore) (channel : String) (queue : List Queued) : IdealStore :=
  fun other => if other = channel then queue else ideal other

/-- Whether a channel has no room for another message. -/
def Full (settings : StoreSettings) (now : Instant) (ideal : IdealStore) (channel : String) :
    Prop :=
  0 < settings.capacity ∧ settings.capacity ≤ (ideal.live now channel).length

/-- What an ideal store answers to a call, and what it keeps. A receiver is given the first message
of any of its channels that has one. -/
inductive Step (settings : StoreSettings) (now : Instant) (ideal : IdealStore) :
    Call → Reply → IdealStore → Prop where
  | refused {channel : String} {message : Message} (full : ideal.Full settings now channel) :
      Step settings now ideal (.send channel message) (.sent (.error (.channelFull channel)))
        (ideal.live now)
  | accepted {channel : String} {message : Message} (room : ¬ideal.Full settings now channel) :
      Step settings now ideal (.send channel message) (.sent (.ok ()))
        ((ideal.live now).replace channel
          (ideal.live now channel ++ [⟨message, now + settings.messageExpiry⟩]))
  | nothing {channels order : List String} {shuffled : order.Perm channels}
      (silent : ∀ channel ∈ channels, ideal.live now channel = []) :
      Step settings now ideal (.receive channels order shuffled) (.received .nothing)
        (ideal.live now)
  | delivered {channels order : List String} {shuffled : order.Perm channels} {channel : String}
      {queued : Queued} {rest : List Queued} (listed : channel ∈ channels)
      (first : ideal.live now channel = queued :: rest) :
      Step settings now ideal (.receive channels order shuffled)
        (.received (.received channel queued.message)) ((ideal.live now).replace channel rest)
  | counted {channel : String} :
      Step settings now ideal (.queued channel) (.counted (ideal.live now channel).length)
        (ideal.live now)
  | flushed : Step settings now ideal .flush .flushed empty

/-- What an ideal store keeps after the events of a run, the last of them at a given moment. -/
inductive Run (settings : StoreSettings) : Instant → List Event → IdealStore → Prop where
  | fresh (now : Instant) : Run settings now [] empty
  | next {earlier now : Instant} {events : List Event} {ideal after : IdealStore} {call : Call}
      {reply : Reply} (run : Run settings earlier events ideal) (le : earlier ≤ now)
      (step : Step settings now ideal call reply after) :
      Run settings now (events ++ [⟨now, call, reply⟩]) after

/-- An ideal store and a store have the same live messages. -/
def Agrees (now : Instant) (ideal : IdealStore) (store : Store) : Prop :=
  ∀ channel, ideal.live now channel = (store.queue channel).filter (Queued.live now)

theorem live_live (ideal : IdealStore) (now : Instant) :
    (ideal.live now).live now = ideal.live now := by
  funext channel
  simp [live]

theorem live_replace_self (ideal : IdealStore) (now : Instant) (channel : String)
    (queue : List Queued) :
    (ideal.replace channel queue).live now channel = queue.filter (Queued.live now) := by
  simp [live, replace]

theorem live_replace_of_ne (ideal : IdealStore) (now : Instant) {channel other : String}
    (differ : other ≠ channel) (queue : List Queued) :
    (ideal.replace channel queue).live now other = ideal.live now other := by
  simp [live, replace, differ]

namespace Agrees

variable {earlier now : Instant} {ideal : IdealStore} {store after : Store}

theorem mono (le : earlier ≤ now) (agrees : ideal.Agrees earlier store) :
    ideal.Agrees now store := by
  intro channel
  have filtered := congrArg (List.filter (Queued.live now)) (agrees channel)
  simpa only [live, filter_live_filter_live le] using filtered

/-- Stores whose queues at most lose expired messages go on agreeing. -/
theorem of_dropped (agrees : ideal.Agrees now store)
    (steps : ∀ channel, QueueStep now (store.queue channel) none none (after.queue channel)) :
    (ideal.live now).Agrees now after := by
  intro channel
  rw [live_live, agrees channel, (steps channel).filter_live_of_dropped]

/-- The same where one queue changes beyond that. -/
theorem replace {channel : String} {queue : List Queued} (agrees : ideal.Agrees now store)
    (changed : queue.filter (Queued.live now) = (after.queue channel).filter (Queued.live now))
    (steps : ∀ other, other ≠ channel →
      QueueStep now (store.queue other) none none (after.queue other)) :
    ((ideal.live now).replace channel queue).Agrees now after := by
  intro other
  by_cases same : other = channel
  · subst same
    rw [live_replace_self, changed]
  · rw [live_replace_of_ne _ _ same, live_live, agrees other,
      (steps other same).filter_live_of_dropped]

/-- A store is full where the ideal one is, because trimming leaves just the live messages. -/
theorem full_iff {latest : Instant} {channel : String} (agrees : ideal.Agrees now store)
    (timely : Timely latest (store.queue channel)) :
    Store.full store.settings (Store.trim now (store.queue channel)) = true ↔
      ideal.Full store.settings now channel := by
  rw [Store.trim_eq_filter now timely, ← agrees channel]
  simp [Store.full, Full]

end Agrees

/-- One call: the ideal store may give the answer of the store, and they go on agreeing. -/
theorem exists_step {latest now : Instant} {ideal : IdealStore} {store : Store}
    (agrees : ideal.Agrees now store)
    (timely : ∀ channel, Timely latest (store.queue channel)) (call : Call) :
    ∃ after, Step store.settings now ideal call (store.perform now call).1 after ∧
      after.Agrees now (store.perform now call).2 := by
  cases call with
  | send channel message =>
      have sent := Store.send_eq store now channel message
      have others : ∀ other, other ≠ channel → QueueStep now (store.queue other) none none
          ((store.send now channel message).2.queue other) := by
        intro other differ
        rw [sent.2.2 other, Store.queue_push_of_ne store now channel message differ]
        exact .refl now _
      have full_iff := agrees.full_iff (timely channel)
      simp only [Store.perform, sent.1]
      rcases Store.push_spec store now channel message with
        ⟨isFull, refused, step⟩ | ⟨notFull, accepted, step⟩
      · rw [refused]
        refine ⟨_, .refused (full_iff.mp isFull), agrees.of_dropped ?_⟩
        intro other
        by_cases same : other = channel
        · subst same
          rw [sent.2.2 other]
          exact step
        · exact others other same
      · rw [accepted]
        refine ⟨_, .accepted ?_, agrees.replace ?_ others⟩
        · rw [← full_iff, notFull]
          simp
        · rw [sent.2.2 channel, step.filter_live_of_added, List.filter_append, agrees channel]
          simp
  | receive channels order shuffled =>
      simp only [Store.perform, Store.receive_eq_take]
      rcases Store.take_spec store now order with
        ⟨nothing, silent, steps⟩ | ⟨source, mem, message, taken, step, others⟩
      · rw [nothing]
        refine ⟨_, .nothing ?_, agrees.of_dropped steps⟩
        intro channel mem
        rw [agrees channel]
        exact silent channel (shuffled.mem_iff.mpr mem)
      · rw [taken]
        rcases step.filter_live_of_taken with ⟨queued, rfl, first⟩
        rw [← agrees source] at first
        refine ⟨_, .delivered (shuffled.mem_iff.mp mem) first, agrees.replace ?_ others⟩
        simp
  | queued channel =>
      have counted : store.queued now channel = (ideal.live now channel).length := by
        rw [agrees channel]
        simp [Store.queued, Store.live]
      simp only [Store.perform, counted]
      exact ⟨_, .counted, agrees.of_dropped fun other => .refl now _⟩
  | flush => exact ⟨_, .flushed, fun other => rfl⟩

/-- A whole history: the ideal store gives the same answers. -/
theorem exists_run {settings : StoreSettings} {now : Instant} {events : List Event} {store : Store}
    (history : History settings now events store) :
    ∃ ideal, Run settings now events ideal ∧ ideal.Agrees now store := by
  induction history with
  | fresh now => exact ⟨empty, .fresh now, fun channel => rfl⟩
  | @next earlier now events store history le call ih =>
      rcases ih with ⟨ideal, run, agrees⟩
      rcases exists_step (agrees.mono le) history.timely call with ⟨after, step, afterAgrees⟩
      rw [history.settings_eq] at step
      exact ⟨after, .next run le step, afterAgrees⟩

/-- A store answers as the ideal store does. The messages that a channel accepted are, in this
order, those that were delivered, expired or flushed, and those that are alive and wait. -/
theorem answers_of_history {settings : StoreSettings} {now : Instant} {events : List Event}
    {store : Store} (history : History settings now events store) :
    ∃ ideal, Run settings now events ideal ∧
      ∀ channel, ideal.live now channel = (store.queue channel).filter (Queued.live now) ∧
        ∃ ledger, Accounts settings now channel events ledger (ideal.live now channel) := by
  rcases exists_run history with ⟨ideal, run, agrees⟩
  refine ⟨ideal, run, fun channel => ⟨agrees channel, ?_⟩⟩
  rw [agrees channel]
  exact history.accounts_live channel

/-- A channel with room for one message: the second message is refused, the first one is received,
and the third one expires. -/
theorem answers_of_history_at_capacity :
    ∃ (events : List Event) (store : Store),
      History { capacity := 1, messageExpiry := 10 } 16 events store ∧
      events.map Event.reply = [.sent (.ok ()), .sent (.error (.channelFull "a")),
        .received (.received "a" ⟨[("n", .integer 1)]⟩), .sent (.ok ()), .counted 0] ∧
      ∃ ideal, Run { capacity := 1, messageExpiry := 10 } 16 events ideal ∧
        ∀ channel, ideal.live 16 channel = (store.queue channel).filter (Queued.live 16) ∧
          ∃ ledger, Accounts { capacity := 1, messageExpiry := 10 } 16 channel events ledger
            (ideal.live 16 channel) := by
  have start := @History.fresh { capacity := 1, messageExpiry := 10 } 0
  have full := (start.next (Nat.le_refl 0) (.send "a" ⟨[("n", .integer 1)]⟩)).next
    (Nat.zero_le 3) (.send "a" ⟨[("n", .integer 2)]⟩)
  have emptied := full.next (show 3 ≤ 5 by decide)
    (.receive ["a", "b"] ["b", "a"] (.swap "a" "b" []))
  have expired := (emptied.next (show 5 ≤ 6 by decide) (.send "a" ⟨[("n", .integer 3)]⟩)).next
    (show 6 ≤ 16 by decide) (.queued "a")
  exact ⟨_, _, expired, rfl, answers_of_history expired⟩

end IdealStore

end Courier
