import Courier.Proofs.Data.Dict
import Courier.Proofs.Store.History

/-!
# Tidy stores

What a store keeps of its channels is tidy. No channel has an empty queue, the messages of a queue
expire in the order in which they stand and none later than one that is sent now, and no queue holds
more than its limit. These facts hold one another up. A queue is cut to what is behind its expired
messages before it is looked at whether it is full, so a full queue is never left empty; and what is
put at its end expires last, because time never goes back.

A receiver that may block looks again and again, each time in an order of its own choosing. Between
two looks anything may be done to the store, so it is enough to follow single looks.
-/

namespace Courier

/-! ## Queues -/

theorem QueueStep.suffix {now : Instant} {before after : List Queued} {taken : Option Message}
    (step : QueueStep now before none taken after) : after <:+ before := by
  generalize nothing : (none : Option Queued) = added at step
  cases step with
  | dropped _ => exact List.suffix_append _ _
  | added _ queued => cases nothing
  | taken _ _ => exact (List.suffix_cons _ _).trans (List.suffix_append _ _)

/-- A queue as a store keeps it. -/
structure Orderly (settings : StoreSettings) (now : Instant) (queue : List Queued) : Prop where
  nonempty : queue ≠ []
  timely : Timely (now + settings.messageExpiry) queue
  fits : 0 < settings.capacity → queue.length ≤ settings.capacity

namespace Orderly

variable {settings : StoreSettings} {earlier now : Instant} {queue kept : List Queued}

theorem mono (orderly : Orderly settings earlier queue) (le : earlier ≤ now) :
    Orderly settings now queue :=
  ⟨orderly.nonempty, orderly.timely.mono (Nat.add_le_add_right le settings.messageExpiry),
    orderly.fits⟩

/-- What is left at the end of a queue is orderly, if anything is left. -/
theorem of_suffix (orderly : Orderly settings now queue) (suffix : kept <:+ queue)
    (left : kept ≠ []) : Orderly settings now kept := by
  refine ⟨left, ?_, ?_⟩
  · rcases suffix with ⟨gone, rfl⟩
    exact orderly.timely.of_append_right
  · intro limited
    exact Nat.le_trans suffix.length_le (orderly.fits limited)

end Orderly

namespace Store

theorem trim_suffix (now : Instant) (queue : List Queued) : trim now queue <:+ queue :=
  List.dropWhile_suffix _

theorem full_iff {settings : StoreSettings} {queue : List Queued} :
    full settings queue = true ↔ 0 < settings.capacity ∧ settings.capacity ≤ queue.length := by
  rw [full, Bool.and_eq_true, decide_eq_true_eq, decide_eq_true_eq]

variable {store after : Store} {earlier now : Instant} {channel : String} {message : Message}

/-! ## Sending -/

theorem push_of_full (isFull : full store.settings (trim now (store.queue channel)) = true) :
    store.push now channel message = (.error (.channelFull channel),
      { store with queues := store.queues.insert channel (trim now (store.queue channel)) }) :=
  if_pos isFull

theorem push_of_room (room : full store.settings (trim now (store.queue channel)) = false) :
    store.push now channel message = (.ok (),
      { store with
        queues := store.queues.insert channel
          (trim now (store.queue channel) ++ [⟨message, now + store.settings.messageExpiry⟩]) }) :=
  if_neg (by simp [room])

/-- A queue that is full without its expired messages is not empty, so its channel has it. -/
theorem find?_of_full (isFull : full store.settings (trim now (store.queue channel)) = true) :
    store.queues.find? channel = some (store.queue channel) := by
  cases found : store.queues.find? channel with
  | some stored => rw [queue, found, Option.getD_some]
  | none =>
      have empty : store.queue channel = [] := by rw [queue, found, Option.getD_none]
      rcases full_iff.mp isFull with ⟨limited, reached⟩
      rw [empty] at reached
      exact absurd limited (Nat.not_lt.mpr reached)

/-- What a refused message leaves behind: of the queue of its channel, which there was before, some
expired messages in front are gone, and everything else is as it was. -/
structure Refused (store : Store) (now : Instant) (channel : String) (after : Store) : Prop where
  trimmed : ∃ gone kept, store.queues.find? channel = some (gone ++ kept) ∧
    (∀ queued ∈ gone, queued.expiresAt ≤ now) ∧ 0 < store.settings.capacity ∧
    store.settings.capacity ≤ kept.length ∧
    after = { store with queues := store.queues.insert channel kept }
  sameChannels : after.queues.keys = store.queues.keys

theorem refused_of_send {error : ChannelError}
    (sent : store.send now channel message = (.error error, after)) :
    error = .channelFull channel ∧ store.Refused now channel after := by
  cases isFull : full store.settings (trim now (store.queue channel)) with
  | false =>
      rw [send, push_of_room isFull] at sent
      cases sent
  | true =>
      rw [send, push_of_full isFull] at sent
      cases sent
      have found := find?_of_full isFull
      rcases trim_split now (store.queue channel) with ⟨gone, split, expired⟩
      rcases full_iff.mp isFull with ⟨limited, reached⟩
      refine ⟨rfl, ⟨gone, _, found.trans (congrArg some split), ?_, limited, reached, rfl⟩, ?_⟩
      · intro queued mem
        exact Queued.not_live_iff.mp (expired queued mem)
      · exact Assoc.keys_insert (Assoc.mem_keys.mpr ⟨_, found⟩)

/-! ## What operations keep -/

/-- No two queues belong to one channel, and all of them are orderly. -/
structure Tidy (now : Instant) (store : Store) : Prop where
  distinct : store.queues.Distinct
  orderly : ∀ {channel queue}, store.queues.find? channel = some queue →
    Orderly store.settings now queue

namespace Tidy

theorem of_nil (now : Instant) (empty : store.queues = []) : Tidy now store := by
  refine ⟨?_, ?_⟩
  · rw [empty]
    exact List.nodup_nil
  · intro channel queue found
    rw [empty] at found
    cases found

theorem mono (tidy : Tidy earlier store) (le : earlier ≤ now) : Tidy now store :=
  ⟨tidy.distinct, fun found => (tidy.orderly found).mono le⟩

theorem insert (tidy : Tidy now store) {queue : List Queued}
    (orderly : Orderly store.settings now queue) :
    Tidy now { store with queues := store.queues.insert channel queue } := by
  refine ⟨Assoc.distinct_insert tidy.distinct, ?_⟩
  intro other stored found
  rcases Assoc.find?_insert_cases found with ⟨-, rfl⟩ | ⟨-, old⟩
  · exact orderly
  · exact tidy.orderly old

theorem erase (tidy : Tidy now store) :
    Tidy now { store with queues := store.queues.erase channel } := by
  refine ⟨Assoc.distinct_filter tidy.distinct _, ?_⟩
  intro other stored found
  exact tidy.orderly (Assoc.find?_of_find?_erase found).2

/-- A queue is put back if anything is left of it, and removed otherwise. -/
theorem putBack (tidy : Tidy now store) {queue kept : List Queued}
    (found : store.queues.find? channel = some queue) (suffix : kept <:+ queue) :
    Tidy now (store.putBack channel kept) := by
  cases kept with
  | nil => exact tidy.erase
  | cons queued rest => exact tidy.insert ((tidy.orderly found).of_suffix suffix (by simp))

theorem timely_queue (tidy : Tidy now store) (channel : String) :
    Timely (now + store.settings.messageExpiry) (store.queue channel) := by
  rw [queue]
  cases found : store.queues.find? channel with
  | none => exact Timely.nil _
  | some stored => exact (tidy.orderly found).timely

theorem push (tidy : Tidy now store) (channel : String) (message : Message) :
    Tidy now (store.push now channel message).2 := by
  cases isFull : full store.settings (trim now (store.queue channel)) with
  | true =>
      rw [push_of_full isFull]
      apply tidy.insert
      apply (tidy.orderly (find?_of_full isFull)).of_suffix (trim_suffix now _)
      rcases full_iff.mp isFull with ⟨limited, reached⟩
      exact List.ne_nil_of_length_pos (Nat.lt_of_lt_of_le limited reached)
  | false =>
      rw [push_of_room isFull]
      apply tidy.insert
      refine ⟨by simp, ?_, ?_⟩
      · rcases trim_suffix now (store.queue channel) with ⟨gone, split⟩
        have timely := tidy.timely_queue channel
        rw [← split] at timely
        exact timely.of_append_right.append_latest message
      · intro limited
        have room : ¬store.settings.capacity ≤ (trim now (store.queue channel)).length := by
          intro reached
          rw [full_iff.mpr ⟨limited, reached⟩] at isFull
          cases isFull
        rw [List.length_append, List.length_singleton]
        omega

theorem send (tidy : Tidy now store) (channel : String) (message : Message) :
    Tidy now (store.send now channel message).2 := by
  have kept := tidy.push channel message
  rw [Store.send]
  rcases pushed : store.push now channel message with ⟨_ | _, after⟩
  · rw [pushed] at kept
    exact kept
  · rw [pushed] at kept
    exact ⟨kept.distinct, kept.orderly⟩

theorem take (tidy : Tidy now store) (order : List String) :
    Tidy now (store.take now order).2 := by
  induction order generalizing store with
  | nil => exact tidy
  | cons channel rest ih =>
      simp only [Store.take]
      split
      · exact ih tidy
      · rename_i stored found
        have suffix := (queueStep_firstLive now stored).suffix
        split
        · rename_i looked
          rw [looked] at suffix
          exact tidy.putBack found suffix
        · rename_i looked
          rw [looked] at suffix
          exact ih (tidy.putBack found suffix)

theorem receive (tidy : Tidy now store) (order : List String) (block : Bool) :
    Tidy now (store.receive now order block).2 := by
  rw [(receive_spec store now "" order block).1]
  exact tidy.take order

theorem resume (tidy : Tidy now store) (waiting : Waiting) :
    Tidy now (store.resume now waiting).2 := by
  rcases resume_spec store now "" waiting with ⟨same, -⟩ | ⟨taken, -⟩
  · rw [same]
    exact tidy
  · rw [taken]
    exact tidy.take waiting.channels

/-- A queue that holds no more than its limit has nothing to lose where it is full. -/
theorem eq_of_refused (tidy : Tidy earlier store) (refused : store.Refused now channel after) :
    after = store := by
  rcases refused.trimmed with ⟨gone, kept, found, -, limited, reached, isAfter⟩
  have fits := (tidy.orderly found).fits limited
  rw [List.length_append] at fits
  have nothingGone : gone = [] := List.eq_nil_of_length_eq_zero (by omega)
  rw [nothingGone, List.nil_append] at found
  rw [isAfter, Assoc.insert_of_find? found]

end Tidy

/-! ## Runs -/

/-- What may be done to a store: a call, the first look of a receiver that may block, or a further
one of a receiver that waits. Every look goes through the channels in some order. -/
inductive Operation where
  | call (call : Call)
  | wait (channels order : List String) (shuffled : order.Perm channels)
  | resume (waiting : Waiting) (order : List String) (shuffled : order.Perm waiting.channels)

def operate (store : Store) (now : Instant) : Operation → Store
  | .call call => (store.perform now call).2
  | .wait _ order _ => (store.receive now order true).2
  | .resume waiting order _ => (store.resume now { waiting with channels := order }).2

/-- The stores that operations lead to from an empty one, with the moment of the last of them. -/
inductive Reached (settings : StoreSettings) : Instant → Store → Prop where
  | fresh (now : Instant) : Reached settings now { settings }
  | next {earlier now : Instant} {store : Store} (reached : Reached settings earlier store)
      (le : earlier ≤ now) (operation : Operation) :
      Reached settings now (store.operate now operation)

theorem settings_operate (operation : Operation) :
    (store.operate now operation).settings = store.settings := by
  cases operation with
  | call call => exact settings_perform store now call
  | wait channels order _ => exact settings_receive store now order true
  | resume waiting order _ => exact settings_resume store now _

theorem Tidy.operate (tidy : Tidy now store) (operation : Operation) :
    Tidy now (store.operate now operation) := by
  cases operation with
  | call call =>
      cases call with
      | send channel message => exact tidy.send channel message
      | receive channels order _ => exact tidy.receive order false
      | queued channel => exact tidy
      | flush => exact Tidy.of_nil now rfl
  | wait channels order _ => exact tidy.receive order true
  | resume waiting order _ => exact tidy.resume _

namespace Reached

variable {settings : StoreSettings}

theorem settings_eq (reached : Reached settings now store) : store.settings = settings := by
  induction reached with
  | fresh _ => rfl
  | next _ _ operation ih => rw [settings_operate, ih]

theorem tidy (reached : Reached settings now store) : Tidy now store := by
  induction reached with
  | fresh now => exact Tidy.of_nil now rfl
  | next _ le operation ih => exact (ih.mono le).operate operation

end Reached

/-- Whatever was done to a store that was empty at first, and however receivers went through their
channels: every channel has one queue at most, and this queue is not empty, is sorted by the moments
of expiry, is within its limit, and holds nothing that expires later than what is sent now. A
message that is refused where its channel is full removes expired messages only and adds no channel;
in fact it leaves the store as it was. -/
theorem queues_stay_tidy {settings : StoreSettings} (reached : Reached settings now store) :
    store.queues.Distinct ∧
      (∀ channel queue, (channel, queue) ∈ store.queues →
        queue ≠ [] ∧ (queue.Pairwise fun first second => first.expiresAt ≤ second.expiresAt) ∧
          (0 < settings.capacity → queue.length ≤ settings.capacity) ∧
          ∀ queued ∈ queue, queued.expiresAt ≤ now + settings.messageExpiry) ∧
      ∀ moment channel message error after,
        store.send moment channel message = (.error error, after) →
          error = .channelFull channel ∧ store.Refused moment channel after ∧ after = store := by
  have tidy := reached.tidy
  refine ⟨tidy.distinct, ?_, ?_⟩
  · intro channel queue mem
    have orderly := tidy.orderly (Assoc.find?_of_mem tidy.distinct mem)
    rw [reached.settings_eq] at orderly
    exact ⟨orderly.nonempty, orderly.timely.sorted, orderly.fits, orderly.timely.bounded⟩
  · intro moment channel message error after sent
    rcases refused_of_send sent with ⟨isFull, refused⟩
    exact ⟨isFull, refused, tidy.eq_of_refused refused⟩

/-- One message for each channel, for five nanoseconds. -/
def brief : StoreSettings := { capacity := 1, messageExpiry := 5 }

/-- A message is taken by a receiver that had to wait, and another one fills the channel again. -/
theorem queues_stay_tidy_waited :
    ∃ store, Reached brief 4 store ∧
      store.queues = [("a", [⟨⟨[("n", .integer 2)]⟩, 9⟩])] ∧
      (store.send 8 "a" ⟨[]⟩).1 = .error (.channelFull "a") ∧
      (store.send 8 "a" ⟨[]⟩).2 = store := by
  have begun : Reached brief 0 _ := .fresh 0
  have waits := begun.next (Nat.zero_le 1) (.wait ["b", "a"] ["a", "b"] (by decide))
  have sent := waits.next (show 1 ≤ 2 by decide) (.call (.send "a" ⟨[("n", .integer 1)]⟩))
  have taken := sent.next (show 2 ≤ 3 by decide) (.resume ⟨["b", "a"], 9, 0⟩ ["b", "a"] (.refl _))
  have again := taken.next (show 3 ≤ 4 by decide) (.call (.send "a" ⟨[("n", .integer 2)]⟩))
  refine ⟨_, again, rfl, rfl, ?_⟩
  exact ((queues_stay_tidy again).2.2 8 "a" ⟨[]⟩ _ _ rfl).2.2

end Store

end Courier
