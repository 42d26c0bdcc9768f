import Courier.Proofs.Lists
import Courier.Proofs.Store.Lobby
import Mathlib.Data.List.DropRight

/-!
# Nobody misses a message

What waits in the channels of a receiver that is parked and not woken was pushed after it had looked,
and is still to be announced: an announcement wakes whoever is parked by then. And no message is found
by two receivers, for what leaves a queue is found by one of them or has expired.
-/

namespace Courier.Lobby

open Socket (under under_append under_self under_of_ne)

/-! ## What waits in a channel -/

theorem rtake_subset {α : Type} {fewer count : Nat} (le : fewer ≤ count) (entries : List α) :
    entries.rtake fewer ⊆ entries.rtake count := by
  apply List.Sublist.subset
  apply List.drop_sublist_drop_left
  omega

variable {lobby : Lobby}

/-- What was pushed, with its channels. -/
def sent (lobby : Lobby) : List (String × Message) :=
  lobby.posts.map fun post => (post.channel, post.message)

/-- What receivers have found, with its channels. -/
def returned (lobby : Lobby) : List (String × Message) := lobby.found.map Prod.snd

def postsOn (lobby : Lobby) (channel : String) : List Post :=
  lobby.posts.filter fun post => post.channel = channel

/-- The posts whose messages wait in a channel: the last ones, as many as the queue is long. -/
def pending (lobby : Lobby) (channel : String) : List Post :=
  (lobby.postsOn channel).rtake (lobby.store.queue channel).length

theorem under_sent (channel : String) :
    under channel lobby.sent = (lobby.postsOn channel).map Post.message := by
  simp [under, sent, postsOn, List.filter_map, Function.comp_def]

/-! ## What holds of every run -/

structure Sound (lobby : Lobby) : Prop where
  books : ∀ channel, ∃ ledger, Books 0 0 lobby.now (under channel lobby.sent)
    (under channel lobby.returned) ledger (lobby.store.queue channel)
  heard : ∀ number waiting,
    lobby.receivers number = .enabled waiting ∨ lobby.receivers number = .parked waiting →
      waiting.heard ≤ lobby.store.announcements
  owed : ∀ number waiting, lobby.receivers number = .parked waiting →
    waiting.heard = lobby.store.announcements →
      ∀ channel ∈ waiting.channels, ∀ post ∈ lobby.pending channel, post.notified = false

namespace Sound

/-- The pending posts of a channel are those of the messages in its queue. -/
theorem pending_messages (sound : Sound lobby) (channel : String) :
    (lobby.pending channel).map Post.message =
      (lobby.store.queue channel).map Queued.message := by
  rcases sound.books channel with ⟨ledger, books⟩
  have accepted := books.accepted
  rw [under_sent] at accepted
  have length := congrArg List.length accepted
  simp only [List.length_map, List.length_append] at length
  rw [pending, List.rtake, List.map_drop, accepted, length, List.map_append]
  simp

theorem withReceiver (sound : Sound lobby) (number : Nat) {next : Receiver}
    (heard : ∀ waiting, next = .enabled waiting ∨ next = .parked waiting →
      waiting.heard ≤ lobby.store.announcements)
    (owed : ∀ waiting, next = .parked waiting → waiting.heard = lobby.store.announcements →
      ∀ channel ∈ waiting.channels, ∀ post ∈ lobby.pending channel, post.notified = false) :
    Sound (lobby.withReceiver number next) where
  books := sound.books
  heard := by
    intro other waiting station
    by_cases same : other = number
    · subst same
      rw [receivers_withReceiver_self] at station
      exact heard waiting station
    · rw [receivers_withReceiver_of_ne same] at station
      exact sound.heard other waiting station
  owed := by
    intro other waiting station
    by_cases same : other = number
    · subst same
      rw [receivers_withReceiver_self] at station
      exact owed waiting station
    · rw [receivers_withReceiver_of_ne same] at station
      exact sound.owed other waiting station

theorem wait (sound : Sound lobby) (duration : Duration) :
    Sound { lobby with now := lobby.now + duration } where
  books := by
    intro channel
    rcases sound.books channel with ⟨ledger, books⟩
    exact ⟨ledger, books.wait (Nat.le_add_right _ _)⟩
  heard := sound.heard
  owed := sound.owed

/-- Queues lose messages, with or without somebody who finds one. -/
theorem lose (sound : Sound lobby) {store : Store} {found : List (Nat × String × Message)}
    (announcements : store.announcements = lobby.store.announcements)
    (steps : ∀ channel, ∃ taken, QueueStep lobby.now (lobby.store.queue channel) none taken
      (store.queue channel) ∧
      under channel (found.map Prod.snd) = under channel lobby.returned ++ taken.toList) :
    Sound { lobby with store, found } where
  books := by
    intro channel
    rcases sound.books channel with ⟨ledger, books⟩
    rcases steps channel with ⟨taken, step, more⟩
    rcases books.step step fun _ _ => Nat.zero_le _ with ⟨after, kept⟩
    rw [Option.map_none, Option.toList_none, List.append_nil, ← more] at kept
    exact ⟨after, kept⟩
  heard := by
    change ∀ _ _, _ → _ ≤ store.announcements
    rw [announcements]
    exact sound.heard
  owed := by
    intro number waiting parked heard channel listed post mem
    change waiting.heard = store.announcements at heard
    rw [announcements] at heard
    rcases steps channel with ⟨taken, step, -⟩
    exact sound.owed number waiting parked heard channel listed post
      (rtake_subset step.sublist.length_le _ mem)

theorem glance (sound : Sound lobby) (number : Nat) (order : List String) :
    Sound (lobby.glance number order) := by
  apply sound.lose
  · exact Store.announcements_take lobby.store lobby.now order
  · intro channel
    refine ⟨_, Store.queueStep_take lobby.store lobby.now channel order, ?_⟩
    rw [List.map_append, under_append]
    cases (lobby.store.take lobby.now order).1 with
    | none => rfl
    | some parcel =>
        rcases parcel with ⟨source, message⟩
        by_cases here : source = channel
        · subst here
          simp [Store.receiptOf, Receipt.from?, returned]
        · simp [Store.receiptOf, Receipt.from?, here, under_of_ne here, returned]

theorem pending_push {store : Store} {channel other : String} {message : Message} {queued : Queued}
    (step : QueueStep lobby.now (lobby.store.queue other)
      (if channel = other then some queued else none) none (store.queue other))
    {post : Post}
    (mem : post ∈ ({ lobby with store, posts := lobby.posts ++ [{ channel, message }] } :
      Lobby).pending other) :
    post ∈ lobby.pending other ∨ post.notified = false := by
  by_cases here : channel = other
  · subst here
    have posts : ({ lobby with store, posts := lobby.posts ++ [{ channel, message }] } :
        Lobby).postsOn channel = lobby.postsOn channel ++ [⟨channel, message, false⟩] := by
      simp [postsOn]
    rw [if_pos rfl] at step
    rw [pending] at mem ⊢
    rw [posts] at mem
    generalize store.queue channel = after at step mem
    generalize lobby.store.queue channel = before at step ⊢
    cases step with
    | @added gone kept expired queued =>
        rw [List.length_append, List.length_singleton, List.rtake_concat_succ] at mem
        rcases List.mem_append.mp mem with stays | new
        · refine Or.inl (rtake_subset ?_ _ stays)
          rw [List.length_append]
          omega
        · cases List.mem_singleton.mp new
          exact Or.inr rfl
  · have posts : ({ lobby with store, posts := lobby.posts ++ [{ channel, message }] } :
        Lobby).postsOn other = lobby.postsOn other := by
      simp [postsOn, here]
    rw [if_neg here] at step
    rw [pending, posts] at mem
    exact Or.inl (rtake_subset step.sublist.length_le _ mem)

theorem pushes (sound : Sound lobby) {channel : String} {message : Message} {store : Store}
    (accepted : lobby.store.push lobby.now channel message = (.ok (), store)) :
    Sound { lobby with store, posts := lobby.posts ++ [{ channel, message }] } := by
  have same := Store.announcements_push lobby.store lobby.now channel message
  rw [accepted] at same
  have steps : ∀ other, QueueStep lobby.now (lobby.store.queue other)
      (if channel = other then some ⟨message, lobby.now + lobby.store.settings.messageExpiry⟩
        else none) none (store.queue other) := by
    rcases lobby.store.push_cases lobby.now channel message with
      ⟨_, refused, -⟩ | ⟨other, isAccepted, steps⟩
    · rw [accepted] at refused
      cases refused
    · rw [accepted] at isAccepted
      cases isAccepted
      exact steps
  refine ⟨?_, ?_, ?_⟩
  · intro other
    rcases sound.books other with ⟨ledger, books⟩
    rcases books.step (steps other) fun _ _ => Nat.zero_le _ with ⟨after, kept⟩
    refine ⟨after, ?_⟩
    have more : under other (Lobby.sent { lobby with
        store, posts := lobby.posts ++ [{ channel, message }] }) =
        under other lobby.sent ++ under other [(channel, message)] := by
      simp [Lobby.sent]
    rw [more]
    by_cases here : channel = other
    · subst here
      simpa [Lobby.returned] using kept
    · simpa [here, under_of_ne here, Lobby.returned] using kept
  · intro number waiting station
    apply (sound.heard number waiting station).trans
    exact Nat.le_of_eq same.symm
  · intro number waiting parked heard other listed post mem
    rcases pending_push (steps other) mem with stays | new
    · exact sound.owed number waiting parked (heard.trans same) other listed post stays
    · exact new

theorem refuses (sound : Sound lobby) {channel : String} {message : Message} {error : ChannelError}
    {store : Store} (refused : lobby.store.push lobby.now channel message = (.error error, store)) :
    Sound { lobby with store } := by
  have same := Store.announcements_push lobby.store lobby.now channel message
  rw [refused] at same
  apply sound.lose same
  intro other
  rcases lobby.store.push_cases lobby.now channel message with
    ⟨after, isRefused, steps⟩ | ⟨_, accepted, -⟩
  · rw [refused] at isRefused
    cases isRefused
    exact ⟨none, steps other, (List.append_nil _).symm⟩
  · rw [refused] at accepted
    cases accepted

/-- An announcement wakes everybody who is parked. -/
theorem notifies (sound : Sound lobby) {number : Nat} {post : Post}
    (found : lobby.posts[number]? = some post) :
    Sound
      { lobby with
        store := lobby.store.announce
        posts := lobby.posts.set number { post with notified := true } } := by
  refine ⟨?_, ?_, ?_⟩
  · have sent : Lobby.sent { lobby with
        store := lobby.store.announce
        posts := lobby.posts.set number { post with notified := true } } = lobby.sent := by
      have parcels := @filterMap_set _ _ _ _ _ { post with notified := true } found
        (fun post => some (post.channel, post.message)) rfl
      simpa [Lobby.sent, List.filterMap_eq_map'] using parcels
    rw [sent]
    exact sound.books
  · intro other waiting station
    exact Nat.le_succ_of_le (sound.heard other waiting station)
  · intro other waiting parked heard
    have bound := sound.heard other waiting (Or.inr parked)
    change waiting.heard = lobby.store.announcements + 1 at heard
    omega

theorem stepAside (sound : Sound lobby) (number : Nat) {next : Receiver}
    (elsewhere : ∀ waiting, next ≠ .enabled waiting ∧ next ≠ .parked waiting) :
    Sound (lobby.withReceiver number next) := by
  apply sound.withReceiver number
  · intro waiting station
    rcases station with enabled | parked
    · exact absurd enabled (elsewhere waiting).1
    · exact absurd parked (elsewhere waiting).2
  · intro waiting parked
    exact absurd parked (elsewhere waiting).2

/-- A receiver parks where it has found nothing: then its channels are empty. -/
theorem park (sound : Sound lobby) {number : Nat} {waiting : Waiting} {order : List String}
    (enabled : lobby.receivers number = .enabled waiting) (perm : order.Perm waiting.channels)
    (nothing : (lobby.store.take lobby.now order).1 = none) :
    Sound ((lobby.glance number order).withReceiver number (.parked waiting)) := by
  apply (sound.glance number order).withReceiver number
  · intro other station
    have same : waiting = other := by
      rcases station with enabled | parked
      · cases enabled
      · exact Receiver.parked.inj parked
    subst same
    change waiting.heard ≤ (lobby.store.take lobby.now order).2.announcements
    rw [Store.announcements_take]
    exact sound.heard number waiting (Or.inl enabled)
  · intro other parked heard channel listed post mem
    cases parked
    have empty := Store.queue_take_none lobby.store lobby.now nothing (perm.mem_iff.mpr listed)
    change post ∈ List.rtake _ ((lobby.store.take lobby.now order).2.queue channel).length at mem
    rw [empty, List.length_nil, List.rtake_zero] at mem
    cases mem

theorem goesOn (sound : Sound lobby) {number : Nat} {next : Receiver}
    (goes : lobby.GoesOn (lobby.receivers number) next) :
    Sound (lobby.withReceiver number next) := by
  generalize lobby.receivers number = before at goes
  cases goes with
  | wakes | expires =>
      apply sound.stepAside number
      simp
  | enables =>
      apply sound.withReceiver number
      · intro waiting station
        rcases station with enabled | parked
        · cases enabled
          exact Nat.le_refl _
        · cases parked
      · intro waiting parked
        cases parked

theorem looks (sound : Sound lobby) {number : Nat} {order : List String} {next : Receiver}
    (look : lobby.Looks order (lobby.receivers number) next) :
    Sound ((lobby.glance number order).withReceiver number next) := by
  generalize station : lobby.receivers number = before at look
  cases look with
  | parks perm nothing => exact sound.park station perm nothing
  | finds | returns =>
      apply (sound.glance number order).stepAside number
      simp

theorem move (sound : Sound lobby) (move : Move) : Sound (lobby.move move) := by
  have effect := effect_move lobby move
  generalize lobby.move move = after at effect
  cases effect with
  | @waits duration => exact sound.wait duration
  | pushes accepted => exact sound.pushes accepted
  | refuses refused => exact sound.refuses refused
  | notifies found => exact sound.notifies found
  | begins away opens =>
      apply sound.stepAside
      intro waiting
      rw [opens]
      split <;> simp
  | goesOn goes => exact sound.goesOn goes
  | looks look => exact sound.looks look
  | still => exact sound

theorem run (sound : Sound lobby) (moves : List Move) : Sound (lobby.run moves) := by
  induction moves generalizing lobby with
  | nil => exact sound
  | cons move rest ih => exact ih (sound.move move)

/-- No message is found twice. -/
theorem returned_subperm (sound : Sound lobby) : lobby.returned.Subperm lobby.sent := by
  apply subperm_of_under
  intro channel
  rcases sound.books channel with ⟨ledger, books⟩
  rw [books.received, books.accepted, List.map_append]
  exact ledger.delivered_sublist.trans (List.sublist_append_left _ _)

end Sound

/-! ## Who has found what -/

/-- What was found is what receivers have come back with, and each receiver comes back once. -/
structure Told (lobby : Lobby) : Prop where
  iff : ∀ number parcel, (number, parcel) ∈ lobby.found ↔
    ∃ moment, lobby.receivers number = .done (some parcel) moment
  once : (lobby.found.map Prod.fst).Nodup

namespace Told

/-- A receiver that has not come back goes on, and has found something if it comes back so. -/
theorem step (told : Told lobby) {number : Nat} {next : Receiver} {store : Store}
    {brought : Option (String × Message)}
    (away : ∀ parcel moment, lobby.receivers number ≠ .done (some parcel) moment)
    (comes : ∀ parcel, brought = some parcel ↔ ∃ moment, next = .done (some parcel) moment) :
    Told
      { lobby.withReceiver number next with
        store, found := lobby.found ++ brought.toList.map fun found => (number, found) } where
  iff := by
    intro other parcel
    change _ ∈ lobby.found ++ _ ↔ ∃ moment, Function.update lobby.receivers number next other = _
    rw [List.mem_append, told.iff]
    by_cases same : other = number
    · subst same
      rw [Function.update_self, ← comes parcel]
      constructor
      · rintro (⟨moment, done⟩ | new)
        · exact absurd done (away parcel moment)
        · simpa using new
      · intro found
        right
        simp [found]
    · rw [Function.update_of_ne same]
      constructor
      · rintro (old | new)
        · exact old
        · simp [Ne.symm same] at new
      · exact Or.inl
  once := by
    rw [List.map_append, List.nodup_append]
    refine ⟨told.once, ?_, ?_⟩
    · cases brought <;> simp
    · intro first firstMem second secondMem same
      rcases List.mem_map.mp firstMem with ⟨⟨_, parcel⟩, mem, rfl⟩
      rcases (told.iff _ parcel).mp mem with ⟨moment, done⟩
      have isOwn : second = number := by
        cases brought with
        | none => cases secondMem
        | some parcel => simpa using secondMem
      cases same.trans isOwn
      exact away parcel moment done

theorem goesOn (told : Told lobby) {number : Nat} {next : Receiver}
    (away : ∀ parcel moment, lobby.receivers number ≠ .done (some parcel) moment)
    (still : ∀ parcel moment, next ≠ .done (some parcel) moment) :
    Told (lobby.withReceiver number next) := by
  have step := @step lobby told number next lobby.store none away (by simp [still])
  rw [Option.toList_none, List.map_nil, List.append_nil] at step
  exact step

theorem looks (told : Told lobby) {number : Nat} {order : List String} {next : Receiver}
    (look : lobby.Looks order (lobby.receivers number) next) :
    Told ((lobby.glance number order).withReceiver number next) := by
  have away := fun parcel => look.not_done (some parcel)
  generalize lobby.receivers number = before at look
  cases look with
  | parks perm nothing =>
      apply told.step away
      simp [nothing]
  | finds perm taken =>
      apply told.step away
      simp [taken]
  | returns perm =>
      apply told.step away
      simp

theorem move (told : Told lobby) (move : Move) : Told (lobby.move move) := by
  have effect := effect_move lobby move
  generalize lobby.move move = after at effect
  cases effect with
  | waits | pushes | refuses | notifies => exact ⟨told.iff, told.once⟩
  | begins away opens =>
      apply told.goesOn
      · simp [away]
      · rw [opens]
        split <;> simp
  | @goesOn _ number next goes =>
      apply told.goesOn fun parcel => goes.not_done (some parcel)
      generalize lobby.receivers number = before at goes
      cases goes with
      | enables | wakes | expires => simp
  | looks look => exact told.looks look
  | still => exact told

theorem run (told : Told lobby) (moves : List Move) : Told (lobby.run moves) := by
  induction moves generalizing lobby with
  | nil => exact told
  | cons move rest ih => exact ih (told.move move)

end Told

/-! ## The beginning -/

theorem settings_move (lobby : Lobby) (move : Move) :
    (lobby.move move).store.settings = lobby.store.settings := by
  have effect := effect_move lobby move
  generalize lobby.move move = after at effect
  cases effect with
  | waits | notifies | begins | goesOn | still => rfl
  | @pushes channel message store accepted =>
      have same := Store.settings_push lobby.store lobby.now channel message
      rw [accepted] at same
      exact same
  | @refuses channel message error store refused =>
      have same := Store.settings_push lobby.store lobby.now channel message
      rw [refused] at same
      exact same
  | looks => exact Store.settings_take ..

theorem settings_run (lobby : Lobby) (moves : List Move) :
    (lobby.run moves).store.settings = lobby.store.settings := by
  induction moves generalizing lobby with
  | nil => rfl
  | cons move rest ih => exact (ih (lobby.move move)).trans (settings_move lobby move)

theorem sound_opening (now : Instant) (settings : StoreSettings) :
    Sound (opening now settings) where
  books := fun channel => ⟨[], rfl, rfl, by simp, by simp⟩
  heard := by
    intro number waiting station
    rcases station with enabled | parked
    · cases enabled
    · cases parked
  owed := by
    intro number waiting parked
    cases parked

theorem told_opening (now : Instant) (settings : StoreSettings) : Told (opening now settings) :=
  ⟨by simp [opening], List.nodup_nil⟩

end Courier.Lobby
