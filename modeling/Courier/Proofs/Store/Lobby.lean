import Courier.Proofs.Store.Waiting
import Mathlib.Logic.Function.Basic

/-!
# Receivers that wait at one store

Any number of receivers and senders share a store. A receiver goes round in small steps. It registers
its interest, looks into its channels and parks where it has found nothing; when it is woken it goes
round again, and at its deadline it looks a last time. A sender pushes its message and announces it
later. Between two steps of one of them all others may make steps, and time passes. An announcement
wakes just those whose interest is registered before it: a receiver remembers how many announcements
there had been when it registered, and is woken by any that follows.

Everything about runs is derived from what a single move may do.
-/

namespace Courier

namespace Store

variable (store : Store) (now : Instant)

theorem find?_putBack_nil (channel other : String) :
    (store.putBack channel []).queues.find? other =
      if other = channel then none else store.queues.find? other := by
  by_cases same : other = channel
  · subst same
    simp [putBack]
  · simp [putBack, same, Assoc.find?_erase_of_ne _ same]

/-- Who finds nothing goes on behind the first channel with a store in which this channel has no
queue, and every other channel has the queue that it had. -/
theorem take_cons_none {first : String} {rest : List String}
    (nothing : (store.take now (first :: rest)).1 = none) :
    ∃ between : Store, store.take now (first :: rest) = between.take now rest ∧
      between.queues.find? first = none ∧
      ∀ other, store.queues.find? other = none → between.queues.find? other = none := by
  cases found : store.queues.find? first with
  | none => exact ⟨store, by simp [take, found], found, fun _ absent => absent⟩
  | some queue =>
      have emptied := @firstLive_none now queue
      rcases looked : firstLive now queue with ⟨_ | message, left⟩
      · rw [looked] at emptied
        have none : left = [] := emptied rfl
        subst none
        refine ⟨store.putBack first [], by simp [take, found, looked], ?_, ?_⟩
        · rw [find?_putBack_nil, if_pos rfl]
        · intro other absent
          rw [find?_putBack_nil, absent, ite_self]
      · simp [take, found, looked] at nothing

theorem find?_take_of_none {order : List String} {channel : String}
    (nothing : (store.take now order).1 = none) (absent : store.queues.find? channel = none) :
    (store.take now order).2.queues.find? channel = none := by
  induction order generalizing store with
  | nil => exact absent
  | cons first rest ih =>
      rcases take_cons_none store now nothing with ⟨between, goesOn, -, others⟩
      rw [goesOn] at nothing ⊢
      exact ih between nothing (others channel absent)

theorem find?_take_none {order : List String} {channel : String}
    (nothing : (store.take now order).1 = none) (listed : channel ∈ order) :
    (store.take now order).2.queues.find? channel = none := by
  induction order generalizing store with
  | nil => cases listed
  | cons first rest ih =>
      rcases take_cons_none store now nothing with ⟨between, goesOn, emptied, -⟩
      rw [goesOn] at nothing ⊢
      rcases List.mem_cons.mp listed with same | inRest
      · subst same
        exact find?_take_of_none between now nothing emptied
      · exact ih between nothing inRest

theorem queue_take_none {order : List String} (nothing : (store.take now order).1 = none)
    {channel : String} (listed : channel ∈ order) :
    (store.take now order).2.queue channel = [] := by
  rw [queue, find?_take_none store now nothing listed]
  rfl

end Store

/-! ## States and moves -/

/-- A receiver has not begun, is about to register its interest, has registered it, is parked, is
about to look a last time, or is done. -/
inductive Receiver where
  | away
  | ready (channels : List String) (deadline : Instant)
  | enabled (waiting : Waiting)
  | parked (waiting : Waiting)
  | late (channels : List String)
  | done (found : Option (String × Message)) (moment : Instant)

/-- A message that was pushed, and whether it was announced since. -/
structure Post where
  channel : String
  message : Message
  notified : Bool := false

structure Lobby where
  now : Instant
  store : Store
  receivers : Nat → Receiver := fun _ => .away
  posts : List Post := []
  found : List (Nat × String × Message) := []

namespace Lobby

/-- What may happen next. -/
inductive Move where
  | wait (duration : Duration)
  | push (channel : String) (message : Message)
  | notify (post : Nat)
  | begin (receiver : Nat) (channels : List String)
  | enable (receiver : Nat)
  | look (receiver : Nat) (order : List String)
  | wake (receiver : Nat)
  | expire (receiver : Nat)
  | lookAgain (receiver : Nat) (order : List String)

def withReceiver (lobby : Lobby) (number : Nat) (next : Receiver) : Lobby :=
  { lobby with receivers := Function.update lobby.receivers number next }

@[simp]
theorem receivers_withReceiver_self (lobby : Lobby) (number : Nat) (next : Receiver) :
    (lobby.withReceiver number next).receivers number = next :=
  Function.update_self ..

theorem receivers_withReceiver_of_ne {lobby : Lobby} {number other : Nat} (differ : other ≠ number)
    (next : Receiver) :
    (lobby.withReceiver number next).receivers other = lobby.receivers other :=
  Function.update_of_ne differ ..

/-- A receiver looks into channels in some order, and takes what is found. -/
def glance (lobby : Lobby) (number : Nat) (order : List String) : Lobby :=
  { lobby with
    store := (lobby.store.take lobby.now order).2
    found := lobby.found ++ (lobby.store.take lobby.now order).1.toList.map fun found =>
      (number, found) }

/-- Makes a move; one that cannot be made changes nothing. -/
def move (lobby : Lobby) : Move → Lobby
  | .wait duration => { lobby with now := lobby.now + duration }
  | .push channel message =>
      match lobby.store.push lobby.now channel message with
      | (.ok (), store) => { lobby with store, posts := lobby.posts ++ [{ channel, message }] }
      | (.error _, store) => { lobby with store }
  | .notify number =>
      match lobby.posts[number]? with
      | some post =>
          if post.notified then lobby
          else
            { lobby with
              store := lobby.store.announce
              posts := lobby.posts.set number { post with notified := true } }
      | none => lobby
  | .begin number channels =>
      match lobby.receivers number with
      | .away =>
          if channels.isEmpty then lobby.withReceiver number (.done none lobby.now)
          else
            lobby.withReceiver number
              (.ready channels (lobby.now + lobby.store.settings.receiveTimeout))
      | _ => lobby
  | .enable number =>
      match lobby.receivers number with
      | .ready channels deadline =>
          lobby.withReceiver number (.enabled ⟨channels, deadline, lobby.store.announcements⟩)
      | _ => lobby
  | .look number order =>
      match lobby.receivers number with
      | .enabled waiting =>
          if order.Perm waiting.channels then
            match (lobby.store.take lobby.now order).1 with
            | some found =>
                (lobby.glance number order).withReceiver number (.done (some found) lobby.now)
            | none => (lobby.glance number order).withReceiver number (.parked waiting)
          else lobby
      | _ => lobby
  | .wake number =>
      match lobby.receivers number with
      | .parked waiting =>
          if waiting.heard = lobby.store.announcements then lobby
          else lobby.withReceiver number (.ready waiting.channels waiting.deadline)
      | _ => lobby
  | .expire number =>
      match lobby.receivers number with
      | .parked waiting =>
          if waiting.heard = lobby.store.announcements ∧ waiting.deadline ≤ lobby.now then
            lobby.withReceiver number (.late waiting.channels)
          else lobby
      | _ => lobby
  | .lookAgain number order =>
      match lobby.receivers number with
      | .late channels =>
          if order.Perm channels then
            (lobby.glance number order).withReceiver number
              (.done (lobby.store.take lobby.now order).1 lobby.now)
          else lobby
      | _ => lobby

/-- Makes moves one after another. -/
def run (lobby : Lobby) (moves : List Move) : Lobby := moves.foldl move lobby

theorem run_append (lobby : Lobby) (first second : List Move) :
    lobby.run (first ++ second) = (lobby.run first).run second :=
  List.foldl_append

/-- A store to which nothing was sent yet, and nobody around. -/
def opening (now : Instant) (settings : StoreSettings) : Lobby := { now, store := { settings } }

/-! ## What a move does -/

/-- A receiver is not under way. -/
def Idle : Receiver → Prop
  | .away | .done _ _ => True
  | .ready _ _ | .enabled _ | .parked _ | .late _ => False

/-- A receiver goes on without looking into its channels. -/
inductive GoesOn (lobby : Lobby) : Receiver → Receiver → Prop
  | enables {channels : List String} {deadline : Instant} :
      GoesOn lobby (.ready channels deadline)
        (.enabled ⟨channels, deadline, lobby.store.announcements⟩)
  | wakes {waiting : Waiting} (news : waiting.heard ≠ lobby.store.announcements) :
      GoesOn lobby (.parked waiting) (.ready waiting.channels waiting.deadline)
  | expires {waiting : Waiting} (due : waiting.deadline ≤ lobby.now) :
      GoesOn lobby (.parked waiting) (.late waiting.channels)

/-- A receiver goes on by a look into its channels. -/
inductive Looks (lobby : Lobby) (order : List String) : Receiver → Receiver → Prop
  | parks {waiting : Waiting} (perm : order.Perm waiting.channels)
      (nothing : (lobby.store.take lobby.now order).1 = none) :
      Looks lobby order (.enabled waiting) (.parked waiting)
  | finds {waiting : Waiting} {found : String × Message} (perm : order.Perm waiting.channels)
      (taken : (lobby.store.take lobby.now order).1 = some found) :
      Looks lobby order (.enabled waiting) (.done (some found) lobby.now)
  | returns {channels : List String} (perm : order.Perm channels) :
      Looks lobby order (.late channels) (.done (lobby.store.take lobby.now order).1 lobby.now)

/-- The effect of a move. -/
inductive Effect (lobby : Lobby) : Move → Lobby → Prop
  | waits {duration : Duration} :
      Effect lobby (.wait duration) { lobby with now := lobby.now + duration }
  | pushes {channel : String} {message : Message} {store : Store}
      (accepted : lobby.store.push lobby.now channel message = (.ok (), store)) :
      Effect lobby (.push channel message)
        { lobby with store, posts := lobby.posts ++ [{ channel, message }] }
  | refuses {channel : String} {message : Message} {error : ChannelError} {store : Store}
      (refused : lobby.store.push lobby.now channel message = (.error error, store)) :
      Effect lobby (.push channel message) { lobby with store }
  | notifies {number : Nat} {post : Post} (found : lobby.posts[number]? = some post) :
      Effect lobby (.notify number)
        { lobby with
          store := lobby.store.announce
          posts := lobby.posts.set number { post with notified := true } }
  | begins {number : Nat} {channels : List String} {next : Receiver}
      (away : lobby.receivers number = .away)
      (opens : next =
        if channels.isEmpty then .done none lobby.now
        else .ready channels (lobby.now + lobby.store.settings.receiveTimeout)) :
      Effect lobby (.begin number channels) (lobby.withReceiver number next)
  | goesOn {move : Move} {number : Nat} {next : Receiver}
      (goes : lobby.GoesOn (lobby.receivers number) next) :
      Effect lobby move (lobby.withReceiver number next)
  | looks {move : Move} {number : Nat} {order : List String} {next : Receiver}
      (look : lobby.Looks order (lobby.receivers number) next) :
      Effect lobby move ((lobby.glance number order).withReceiver number next)
  | still {move : Move} : Effect lobby move lobby

theorem GoesOn.not_idle {lobby : Lobby} {before next : Receiver}
    (goes : lobby.GoesOn before next) : ¬Idle before := by
  intro idle
  cases goes with
  | enables | wakes | expires => exact idle

theorem GoesOn.not_done {lobby : Lobby} {before next : Receiver} (goes : lobby.GoesOn before next)
    (found : Option (String × Message)) (moment : Instant) : before ≠ .done found moment := by
  intro done
  apply goes.not_idle
  rw [done]
  trivial

theorem Looks.not_idle {lobby : Lobby} {order : List String} {before next : Receiver}
    (look : lobby.Looks order before next) : ¬Idle before := by
  intro idle
  cases look with
  | parks | finds | returns => exact idle

theorem Looks.not_done {lobby : Lobby} {order : List String} {before next : Receiver}
    (look : lobby.Looks order before next) (found : Option (String × Message)) (moment : Instant) :
    before ≠ .done found moment := by
  intro done
  apply look.not_idle
  rw [done]
  trivial

theorem effect_begin (lobby : Lobby) (number : Nat) (channels : List String) :
    lobby.Effect (.begin number channels) (lobby.move (.begin number channels)) := by
  simp only [move]
  split
  · rename_i away
    split
    · rename_i none
      apply Effect.begins away
      rw [if_pos none]
    · rename_i some
      apply Effect.begins away
      rw [if_neg some]
  · exact .still

theorem effect_look (lobby : Lobby) (number : Nat) (order : List String) :
    lobby.Effect (.look number order) (lobby.move (.look number order)) := by
  simp only [move]
  split
  · rename_i waiting enabled
    split
    · rename_i perm
      split
      · rename_i found taken
        apply Effect.looks
        rw [enabled]
        exact .finds perm taken
      · rename_i nothing
        apply Effect.looks
        rw [enabled]
        exact .parks perm nothing
    · exact .still
  · exact .still

theorem effect_move (lobby : Lobby) (move : Move) : lobby.Effect move (lobby.move move) := by
  cases move with
  | wait duration => exact .waits
  | push channel message =>
      simp only [Lobby.move]
      split
      · rename_i accepted
        exact .pushes accepted
      · rename_i refused
        exact .refuses refused
  | notify number =>
      simp only [Lobby.move]
      split
      · rename_i post found
        split
        · exact .still
        · exact .notifies found
      · exact .still
  | begin number channels => exact effect_begin lobby number channels
  | enable number =>
      simp only [Lobby.move]
      split
      · rename_i ready
        apply Effect.goesOn
        rw [ready]
        exact .enables
      · exact .still
  | look number order => exact effect_look lobby number order
  | wake number =>
      simp only [Lobby.move]
      split
      · rename_i parked
        split
        · exact .still
        · rename_i news
          apply Effect.goesOn
          rw [parked]
          exact .wakes news
      · exact .still
  | expire number =>
      simp only [Lobby.move]
      split
      · rename_i parked
        split
        · rename_i late
          apply Effect.goesOn
          rw [parked]
          exact .expires late.2
        · exact .still
      · exact .still
  | lookAgain number order =>
      simp only [Lobby.move]
      split
      · rename_i late
        split
        · rename_i perm
          apply Effect.looks
          rw [late]
          exact .returns perm
        · exact .still
      · exact .still

end Lobby

end Courier
