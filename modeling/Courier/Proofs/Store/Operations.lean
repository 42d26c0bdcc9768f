import Courier.Proofs.Store.Queue
import Courier.Store.Receiving

/-!
# What the operations of a store do to its queues

For each operation, what it answers and the `QueueStep` that it makes of the queue of every channel.
Nothing after this module opens an operation of a store again.
-/

namespace Courier

namespace QueueStep

variable {now : Instant} {before between after : List Queued}

/-- Dropping expired messages in front of another step is part of that step. -/
theorem of_dropped {taken : Option Message} (first : QueueStep now before none none between)
    (second : QueueStep now between none taken after) : QueueStep now before none taken after := by
  cases first with
  | @dropped gone _ expired =>
      generalize added_eq : (none : Option Queued) = added at second
      cases second with
      | @dropped more _ moreExpired =>
          rw [← List.append_assoc]
          apply QueueStep.dropped
          intro queued mem
          rcases List.mem_append.mp mem with inGone | inMore
          · exact expired queued inGone
          · exact moreExpired queued inMore
      | added _ _ => simp at added_eq
      | @taken more _ moreExpired queued alive =>
          rw [← List.append_assoc]
          apply QueueStep.taken _ alive
          intro queued mem
          rcases List.mem_append.mp mem with inGone | inMore
          · exact expired queued inGone
          · exact moreExpired queued inMore

theorem filter_live_of_taken {message : Message}
    (step : QueueStep now before none (some message) after) :
    ∃ queued : Queued, queued.message = message ∧
      before.filter (Queued.live now) = queued :: after.filter (Queued.live now) := by
  cases step with
  | @taken gone kept expired queued alive =>
      refine ⟨queued, rfl, ?_⟩
      rw [List.filter_append, filter_live_of_expired expired, List.nil_append,
        List.filter_cons_of_pos alive]

theorem filter_live_of_added {queued : Queued}
    (step : QueueStep now before (some queued) none after) :
    after.filter (Queued.live now) =
      before.filter (Queued.live now) ++ [queued].filter (Queued.live now) := by
  cases step with
  | added expired _ => simp [filter_live_of_expired expired]

end QueueStep

namespace Receipt

/-- What a receipt brings from a channel. -/
def from? (channel : String) : Receipt → Option Message
  | .received source message => if source = channel then some message else none
  | .nothing | .waiting _ => none

/-- A receipt brings something from one of the channels, or waits for them. -/
def Concerns (channels : List String) : Receipt → Prop
  | .received source _ => source ∈ channels
  | .nothing => True
  | .waiting left => left.channels = channels

end Receipt

namespace Store

variable (store : Store) (now : Instant) (channel : String)

/-! ## Looking up and storing queues -/

theorem queue_insert_self (queue : List Queued) :
    ({ store with queues := store.queues.insert channel queue } : Store).queue channel = queue := by
  simp [Store.queue]

theorem queue_insert_of_ne {other : String} (differ : other ≠ channel) (queue : List Queued) :
    ({ store with queues := store.queues.insert channel queue } : Store).queue other =
      store.queue other := by
  simp [Store.queue, Assoc.find?_insert_of_ne _ _ differ]

@[simp]
theorem settings_putBack (queue : List Queued) :
    (store.putBack channel queue).settings = store.settings := rfl

@[simp]
theorem queue_putBack_self (queue : List Queued) :
    (store.putBack channel queue).queue channel = queue := by
  cases queue with
  | nil => simp [putBack, Store.queue]
  | cons queued rest => simp [putBack, Store.queue]

theorem queue_putBack_of_ne {other : String} (differ : other ≠ channel) (queue : List Queued) :
    (store.putBack channel queue).queue other = store.queue other := by
  cases queue with
  | nil => simp [putBack, Store.queue, Assoc.find?_erase_of_ne _ differ]
  | cons queued rest => simp [putBack, Store.queue, Assoc.find?_insert_of_ne _ _ differ]

/-! ## Sending -/

variable (message : Message)

@[simp]
theorem settings_push : (store.push now channel message).2.settings = store.settings := by
  simp only [push]
  split <;> rfl

theorem queue_push_of_ne {other : String} (differ : other ≠ channel) :
    (store.push now channel message).2.queue other = store.queue other := by
  simp only [push]
  split
  · exact queue_insert_of_ne store channel differ _
  · exact queue_insert_of_ne store channel differ _

/-- A message is refused if the trimmed queue has no room, and else it is added. -/
theorem push_spec :
    (full store.settings (trim now (store.queue channel)) = true ∧
        (store.push now channel message).1 = .error (.channelFull channel) ∧
        QueueStep now (store.queue channel) none none
          ((store.push now channel message).2.queue channel)) ∨
      (full store.settings (trim now (store.queue channel)) = false ∧
        (store.push now channel message).1 = .ok () ∧
        QueueStep now (store.queue channel)
          (some ⟨message, now + store.settings.messageExpiry⟩) none
          ((store.push now channel message).2.queue channel)) := by
  rcases trim_split now (store.queue channel) with ⟨gone, split, expired⟩
  cases isFull : full store.settings (trim now (store.queue channel)) with
  | true =>
      left
      refine ⟨rfl, by simp [push, isFull], ?_⟩
      simp only [push, isFull, if_true, queue_insert_self]
      conv => arg 2; rw [split]
      exact QueueStep.dropped expired
  | false =>
      right
      refine ⟨rfl, by simp [push, isFull], ?_⟩
      simp only [push, isFull, Bool.false_eq_true, if_false, queue_insert_self]
      conv => arg 2; rw [split]
      exact QueueStep.added expired _

/-- What pushing comes to as a whole: the result, and the step of every queue. -/
theorem push_cases :
    (∃ after, store.push now channel message = (.error (.channelFull channel), after) ∧
        ∀ other, QueueStep now (store.queue other) none none (after.queue other)) ∨
      ∃ after, store.push now channel message = (.ok (), after) ∧
        ∀ other, QueueStep now (store.queue other)
          (if channel = other then some ⟨message, now + store.settings.messageExpiry⟩ else none)
          none (after.queue other) := by
  have elsewhere : ∀ other, channel ≠ other →
      QueueStep now (store.queue other) none none
        ((store.push now channel message).2.queue other) := by
    intro other differ
    rw [queue_push_of_ne store now channel message (Ne.symm differ)]
    exact .refl now _
  rcases push_spec store now channel message with ⟨-, refused, step⟩ | ⟨-, accepted, step⟩
  · refine Or.inl ⟨_, Prod.ext refused rfl, ?_⟩
    intro other
    by_cases same : channel = other
    · subst same
      exact step
    · exact elsewhere other same
  · refine Or.inr ⟨_, Prod.ext accepted rfl, ?_⟩
    intro other
    by_cases same : channel = other
    · subst same
      rw [if_pos rfl]
      exact step
    · rw [if_neg same]
      exact elsewhere other same

/-- Sending is pushing with an announcement, which no queue shows. -/
theorem send_eq :
    (store.send now channel message).1 = (store.push now channel message).1 ∧
      (store.send now channel message).2.settings = store.settings ∧
      ∀ other, (store.send now channel message).2.queue other =
        (store.push now channel message).2.queue other := by
  have settings := settings_push store now channel message
  simp only [send]
  rcases pushed : store.push now channel message with ⟨result, after⟩
  rw [pushed] at settings
  cases result with
  | ok _ => exact ⟨rfl, settings, fun _ => rfl⟩
  | error _ => exact ⟨rfl, settings, fun _ => rfl⟩

/-! ## Receiving -/

theorem queueStep_firstLive (queue : List Queued) :
    QueueStep now queue none (firstLive now queue).1 (firstLive now queue).2 := by
  rcases trim_split now queue with ⟨gone, split, expired⟩
  rw [firstLive_eq]
  cases trimmed : trim now queue with
  | nil =>
      rw [trimmed] at split
      conv => arg 2; rw [split]
      exact QueueStep.dropped expired
  | cons queued rest =>
      rw [trimmed] at split
      conv => arg 2; rw [split]
      exact QueueStep.taken expired (live_head_trim trimmed)

theorem firstLive_none {queue : List Queued} (missing : (firstLive now queue).1 = none) :
    (firstLive now queue).2 = [] := by
  rw [firstLive_eq] at missing ⊢
  cases trimmed : trim now queue with
  | nil => rfl
  | cons queued rest => simp [trimmed] at missing

@[simp]
theorem settings_take (order : List String) :
    (store.take now order).2.settings = store.settings := by
  induction order generalizing store with
  | nil => rfl
  | cons channel rest ih =>
      simp only [take]
      split
      · exact ih store
      · split
        · rfl
        · rw [ih, settings_putBack]

/-- Taking finds nothing if no channel of the order has a live message; else it takes the first
live message of one of them. Every other queue at most loses expired messages. -/
theorem take_spec (order : List String) :
    ((store.take now order).1 = none ∧
        (∀ channel ∈ order, (store.queue channel).filter (Queued.live now) = []) ∧
        ∀ channel, QueueStep now (store.queue channel) none none
          ((store.take now order).2.queue channel)) ∨
      ∃ channel ∈ order, ∃ message, (store.take now order).1 = some (channel, message) ∧
        QueueStep now (store.queue channel) none (some message)
          ((store.take now order).2.queue channel) ∧
        ∀ other, other ≠ channel → QueueStep now (store.queue other) none none
          ((store.take now order).2.queue other) := by
  induction order generalizing store with
  | nil => exact Or.inl ⟨rfl, by simp, fun channel => .refl now _⟩
  | cons channel rest ih =>
      cases found : store.queues.find? channel with
      | none =>
          have empty : store.queue channel = [] := by simp [Store.queue, found]
          have skipped : store.take now (channel :: rest) = store.take now rest := by
            simp [take, found]
          rw [skipped]
          rcases ih store with ⟨nothing, noneLive, steps⟩ | ⟨source, mem, taken⟩
          · refine Or.inl ⟨nothing, ?_, steps⟩
            intro listed mem
            rcases List.mem_cons.mp mem with rfl | inRest
            · simp [empty]
            · exact noneLive listed inRest
          · exact Or.inr ⟨source, List.mem_cons_of_mem _ mem, taken⟩
      | some queue =>
          have stored : store.queue channel = queue := by simp [Store.queue, found]
          have step := queueStep_firstLive now queue
          have emptied := @firstLive_none now queue
          rcases first : firstLive now queue with ⟨_ | message, left⟩
          · -- the channel had expired messages only, and the search goes on without them
            rw [first] at step emptied
            have leftEmpty : left = [] := emptied rfl
            subst leftEmpty
            have skipped : store.take now (channel :: rest) =
                (store.putBack channel []).take now rest := by
              simp [take, found, first]
            have dropped : ∀ other, QueueStep now (store.queue other) none none
                ((store.putBack channel []).queue other) := by
              intro other
              by_cases same : other = channel
              · subst same
                rw [queue_putBack_self, stored]
                exact step
              · rw [queue_putBack_of_ne store channel same]
                exact .refl now _
            rw [skipped]
            rcases ih (store.putBack channel []) with
              ⟨nothing, noneLive, steps⟩ | ⟨source, mem, message, taken, sourceStep, otherSteps⟩
            · refine Or.inl ⟨nothing, ?_, fun other => (dropped other).of_dropped (steps other)⟩
              intro listed mem
              rw [← (dropped listed).filter_live_of_dropped]
              rcases List.mem_cons.mp mem with rfl | inRest
              · simp
              · exact noneLive listed inRest
            · refine Or.inr ⟨source, List.mem_cons_of_mem _ mem, message, taken,
                (dropped source).of_dropped sourceStep, ?_⟩
              intro other differ
              exact (dropped other).of_dropped (otherSteps other differ)
          · rw [first] at step
            have taken : store.take now (channel :: rest) =
                (some (channel, message), store.putBack channel left) := by
              simp [take, found, first]
            rw [taken]
            refine Or.inr ⟨channel, List.mem_cons_self, message, rfl, ?_, ?_⟩
            · rw [queue_putBack_self, stored]
              exact step
            · intro other differ
              rw [queue_putBack_of_ne store channel differ]
              exact .refl now _

theorem receive_eq_take (order : List String) :
    store.receive now order false =
      (receiptOf (store.take now order).1, (store.take now order).2) := by
  cases order with
  | nil => rfl
  | cons channel rest =>
      simp only [receive, List.isEmpty_cons, Bool.false_eq_true, if_false]
      rcases store.take now (channel :: rest) with ⟨_ | ⟨source, message⟩, after⟩
      · rfl
      · rfl

/-! ## Receivers that may block -/

/-- What a last look finds is taken from the queues. -/
theorem queueStep_take (order : List String) :
    QueueStep now (store.queue channel) none
      ((receiptOf (store.take now order).1).from? channel)
      ((store.take now order).2.queue channel) := by
  rcases take_spec store now order with
    ⟨nothing, -, steps⟩ | ⟨source, -, message, taken, sourceStep, otherSteps⟩
  · rw [nothing]
    exact steps channel
  · rw [taken]
    by_cases same : source = channel
    · subst same
      simpa [receiptOf, Receipt.from?] using sourceStep
    · simpa [receiptOf, Receipt.from?, same] using otherSteps channel (Ne.symm same)

/-- Receiving takes what it finds, whether it may block or not. -/
theorem receive_spec (channels : List String) (block : Bool) :
    (store.receive now channels block).2 = (store.take now channels).2 ∧
      (store.receive now channels block).1.from? channel =
        (receiptOf (store.take now channels).1).from? channel := by
  cases channels with
  | nil => exact ⟨rfl, rfl⟩
  | cons first rest =>
      simp only [receive, List.isEmpty_cons, Bool.false_eq_true, if_false]
      rcases store.take now (first :: rest) with ⟨_ | ⟨source, message⟩, after⟩
      · cases block with
        | true => exact ⟨rfl, rfl⟩
        | false => exact ⟨rfl, rfl⟩
      · exact ⟨rfl, rfl⟩

/-- Going on to receive takes what it finds, or waits and leaves the store alone. -/
theorem resume_spec (waiting : Waiting) :
    ((store.resume now waiting).2 = store ∧
        (store.resume now waiting).1.from? channel = none) ∨
      ((store.resume now waiting).2 = (store.take now waiting.channels).2 ∧
        (store.resume now waiting).1.from? channel =
          (receiptOf (store.take now waiting.channels).1).from? channel) := by
  rw [resume]
  split
  · split
    · exact Or.inr ⟨rfl, rfl⟩
    · exact Or.inl ⟨rfl, rfl⟩
  · right
    rcases store.take now waiting.channels with ⟨_ | ⟨source, message⟩, after⟩
    · dsimp only
      split
      · exact ⟨rfl, rfl⟩
      · exact ⟨rfl, rfl⟩
    · exact ⟨rfl, rfl⟩

theorem queueStep_receive (channels : List String) (block : Bool) :
    QueueStep now (store.queue channel) none
      ((store.receive now channels block).1.from? channel)
      ((store.receive now channels block).2.queue channel) := by
  have spec := receive_spec store now channel channels block
  rw [spec.1, spec.2]
  exact queueStep_take store now channel channels

theorem queueStep_resume (waiting : Waiting) :
    QueueStep now (store.queue channel) none ((store.resume now waiting).1.from? channel)
      ((store.resume now waiting).2.queue channel) := by
  rcases resume_spec store now channel waiting with ⟨same, nothing⟩ | ⟨taken, found⟩
  · rw [same, nothing]
    exact .refl now _
  · rw [taken, found]
    exact queueStep_take store now channel waiting.channels

theorem mem_of_take {order : List String} {source : String} {message : Message}
    (taken : (store.take now order).1 = some (source, message)) : source ∈ order := by
  rcases take_spec store now order with ⟨nothing, -⟩ | ⟨found, mem, other, takenFound, -⟩
  · rw [nothing] at taken
    cases taken
  · rw [takenFound] at taken
    cases taken
    exact mem

theorem concerns_receiptOf_take (order : List String) :
    (receiptOf (store.take now order).1).Concerns order := by
  rcases taken : (store.take now order).1 with _ | ⟨source, message⟩
  · trivial
  · exact mem_of_take store now taken

theorem concerns_receive (channels : List String) (block : Bool) :
    (store.receive now channels block).1.Concerns channels := by
  have concerns := concerns_receiptOf_take store now channels
  rw [receive]
  split
  · trivial
  · rcases taken : store.take now channels with ⟨_ | ⟨source, message⟩, after⟩
    · cases block with
      | true => rfl
      | false => trivial
    · rw [taken] at concerns
      exact concerns

theorem concerns_resume (waiting : Waiting) :
    (store.resume now waiting).1.Concerns waiting.channels := by
  have concerns := concerns_receiptOf_take store now waiting.channels
  rw [resume]
  split
  · split
    · exact concerns
    · rfl
  · rcases taken : store.take now waiting.channels with ⟨_ | ⟨source, message⟩, after⟩
    · dsimp only
      split
      · trivial
      · rfl
    · rw [taken] at concerns
      exact concerns

@[simp]
theorem settings_receive (channels : List String) (block : Bool) :
    (store.receive now channels block).2.settings = store.settings := by
  rw [(receive_spec store now "" channels block).1, settings_take]

@[simp]
theorem settings_resume (waiting : Waiting) :
    (store.resume now waiting).2.settings = store.settings := by
  rcases resume_spec store now "" waiting with ⟨same, -⟩ | ⟨taken, -⟩
  · rw [same]
  · rw [taken, settings_take]

/-! ## Channels that are not asked for -/

theorem queue_take_of_not_mem {order : List String} {channel : String}
    (elsewhere : channel ∉ order) :
    (store.take now order).2.queue channel = store.queue channel := by
  induction order generalizing store with
  | nil => rfl
  | cons first rest ih =>
      rw [List.mem_cons, not_or] at elsewhere
      simp only [take]
      split
      · exact ih store elsewhere.2
      · split
        · exact queue_putBack_of_ne store first elsewhere.1 _
        · rw [ih _ elsewhere.2]
          exact queue_putBack_of_ne store first elsewhere.1 _

theorem queue_receive_of_not_mem {channels : List String} {channel : String}
    (elsewhere : channel ∉ channels) (block : Bool) :
    (store.receive now channels block).2.queue channel = store.queue channel := by
  rw [(receive_spec store now channel channels block).1]
  exact queue_take_of_not_mem store now elsewhere

theorem queue_resume_of_not_mem {waiting : Waiting} {channel : String}
    (elsewhere : channel ∉ waiting.channels) :
    (store.resume now waiting).2.queue channel = store.queue channel := by
  rcases resume_spec store now channel waiting with ⟨same, -⟩ | ⟨taken, -⟩
  · rw [same]
  · rw [taken]
    exact queue_take_of_not_mem store now elsewhere

end Store

end Courier
