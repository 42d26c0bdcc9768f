import Courier.Proofs.Store.Lobby

/-!
# Rounds of receivers

What a store does at once, a lobby does in moves. Sending to a store is a push that is announced, and
beginning to receive and going on are rounds of one receiver, whom nobody disturbs meanwhile. So
whatever holds of all runs of a lobby holds of senders and receivers that call the store.
-/

namespace Courier

namespace Store

variable (store : Store) (now : Instant)

theorem take_of_absent {order : List String}
    (absent : ∀ channel ∈ order, store.queues.find? channel = none) :
    store.take now order = (none, store) := by
  induction order with
  | nil => rfl
  | cons first rest ih =>
      rw [take, absent first List.mem_cons_self]
      exact ih fun channel listed => absent channel (List.mem_cons_of_mem first listed)

/-- Who has found nothing finds nothing at a second look, and changes nothing by it. -/
theorem take_again {order : List String} (nothing : (store.take now order).1 = none) :
    (store.take now order).2.take now order = (none, (store.take now order).2) :=
  take_of_absent _ now fun _ listed => find?_take_none store now nothing listed

end Store

namespace Lobby

variable {lobby : Lobby}

/-! ## What a store does at once -/

/-- A message is sent at once. -/
def send (lobby : Lobby) (channel : String) (message : Message) : Lobby :=
  match lobby.store.send lobby.now channel message with
  | (.ok (), store) =>
      { lobby with store, posts := lobby.posts ++ [{ channel, message, notified := true }] }
  | (.error _, store) => { lobby with store }

/-- Where a receiver is that has come so far. -/
def station (now : Instant) : Receipt → Receiver
  | .received channel message => .done (some (channel, message)) now
  | .nothing => .done none now
  | .waiting waiting => .parked waiting

def parcel? : Receipt → Option (String × Message)
  | .received channel message => some (channel, message)
  | .nothing | .waiting _ => none

/-- A receiver comes so far at once. -/
def answer (lobby : Lobby) (number : Nat) (result : Receipt × Store) : Lobby :=
  { lobby with
    store := result.2
    receivers := Function.update lobby.receivers number (station lobby.now result.1)
    found := lobby.found ++ (parcel? result.1).toList.map fun found => (number, found) }

/-- What a look comes to. -/
def outcome (waiting : Waiting) : Option (String × Message) → Receipt
  | some (channel, message) => .received channel message
  | none => .waiting waiting

/-! ## The same in moves -/

/-- Sending is a push that is announced. -/
theorem run_send (lobby : Lobby) (channel : String) (message : Message) :
    lobby.run [.push channel message, .notify lobby.posts.length] = lobby.send channel message := by
  simp only [run, List.foldl_cons, List.foldl_nil, send, Store.send, move]
  rcases lobby.store.push lobby.now channel message with ⟨_ | _, store⟩
  · simp
  · simp [Store.announce]

theorem answer_withReceiver (lobby : Lobby) (number : Nat) (next : Receiver)
    (result : Receipt × Store) :
    (lobby.withReceiver number next).answer number result = lobby.answer number result := by
  simp only [withReceiver, answer, Function.update_idem]

theorem receivers_answer_self (lobby : Lobby) (number : Nat) (result : Receipt × Store) :
    (lobby.answer number result).receivers number = station lobby.now result.1 :=
  Function.update_self ..

theorem answer_waiting (lobby : Lobby) (number : Nat) (waiting : Waiting) (store : Store)
    (result : Receipt × Store) :
    (lobby.answer number (.waiting waiting, store)).answer number result =
      lobby.answer number result := by
  simp [answer, parcel?]

theorem move_look {number : Nat} {waiting : Waiting}
    (enabled : lobby.receivers number = .enabled waiting) :
    lobby.move (.look number waiting.channels) =
      lobby.answer number (outcome waiting (lobby.store.take lobby.now waiting.channels).1,
        (lobby.store.take lobby.now waiting.channels).2) := by
  simp only [move, enabled, List.Perm.refl, if_true, glance]
  rcases lobby.store.take lobby.now waiting.channels with ⟨_ | ⟨channel, message⟩, store⟩
  · rfl
  · rfl

/-- A round of a receiver: it registers its interest and looks. -/
theorem run_round {number : Nat} {channels : List String} {deadline : Instant}
    (ready : lobby.receivers number = .ready channels deadline) :
    lobby.run [.enable number, .look number channels] =
      lobby.answer number
        (outcome ⟨channels, deadline, lobby.store.announcements⟩
          (lobby.store.take lobby.now channels).1,
        (lobby.store.take lobby.now channels).2) := by
  have enabled : lobby.move (.enable number) =
      lobby.withReceiver number (.enabled ⟨channels, deadline, lobby.store.announcements⟩) := by
    simp only [move, ready]
  rw [run, List.foldl_cons, List.foldl_cons, List.foldl_nil, enabled,
    move_look (receivers_withReceiver_self ..), answer_withReceiver]
  rfl

theorem move_lookAgain {number : Nat} {channels : List String}
    (late : lobby.receivers number = .late channels) :
    lobby.move (.lookAgain number channels) =
      lobby.answer number (lobby.store.lastLook lobby.now channels) := by
  simp only [move, late, List.Perm.refl, if_true, glance, Store.lastLook]
  rcases lobby.store.take lobby.now channels with ⟨_ | ⟨channel, message⟩, store⟩
  · rfl
  · rfl

theorem run_expire {number : Nat} {waiting : Waiting}
    (parked : lobby.receivers number = .parked waiting)
    (heard : waiting.heard = lobby.store.announcements) (due : waiting.deadline ≤ lobby.now) :
    lobby.run [.expire number, .lookAgain number waiting.channels] =
      lobby.answer number (lobby.store.lastLook lobby.now waiting.channels) := by
  have late : lobby.move (.expire number) =
      lobby.withReceiver number (.late waiting.channels) := by
    simp only [move, parked]
    exact if_pos ⟨heard, due⟩
  rw [run, List.foldl_cons, List.foldl_cons, List.foldl_nil, late,
    move_lookAgain (receivers_withReceiver_self ..), answer_withReceiver]
  rfl

/-- Beginning to receive is a round of a receiver. -/
theorem run_receive {number : Nat} (away : lobby.receivers number = .away)
    (channels : List String) :
    lobby.run [.begin number channels, .enable number, .look number channels] =
      lobby.answer number (lobby.store.receive lobby.now channels true) := by
  cases channels with
  | nil => simp [run, move, away, withReceiver, Store.receive, answer, station, parcel?]
  | cons first rest =>
      have begun : lobby.move (.begin number (first :: rest)) = lobby.withReceiver number
          (.ready (first :: rest) (lobby.now + lobby.store.settings.receiveTimeout)) := by
        simp [move, away]
      have received : lobby.store.receive lobby.now (first :: rest) true =
          (outcome ⟨first :: rest, lobby.now + lobby.store.settings.receiveTimeout,
            lobby.store.announcements⟩ (lobby.store.take lobby.now (first :: rest)).1,
          (lobby.store.take lobby.now (first :: rest)).2) := by
        have heard := Store.announcements_take lobby.store lobby.now (first :: rest)
        have settings := Store.settings_take lobby.store lobby.now (first :: rest)
        rw [Store.receive, if_neg (by simp)]
        generalize lobby.store.take lobby.now (first :: rest) = looked at heard settings
        rcases looked with ⟨_ | ⟨channel, message⟩, store⟩
        · rw [← heard, ← settings]
          rfl
        · rfl
      rw [run, List.foldl_cons, begun, received]
      refine (run_round (receivers_withReceiver_self ..)).trans ?_
      rw [answer_withReceiver]
      rfl

/-- Going on to receive is what a receiver does that is woken, or whose time is up: it goes round
again, looks a last time, or stays where it is. -/
theorem run_resume {number : Nat} {waiting : Waiting}
    (parked : lobby.receivers number = .parked waiting) :
    ∃ moves ∈ [[], [.expire number, .lookAgain number waiting.channels],
        [.wake number, .enable number, .look number waiting.channels],
        [.wake number, .enable number, .look number waiting.channels, .expire number,
          .lookAgain number waiting.channels]],
      lobby.run moves = lobby.answer number (lobby.store.resume lobby.now waiting) := by
  rw [Store.resume]
  by_cases heard : waiting.heard = lobby.store.announcements
  · rw [if_pos heard]
    by_cases due : waiting.deadline ≤ lobby.now
    · refine ⟨[.expire number, .lookAgain number waiting.channels], by simp, ?_⟩
      rw [if_pos due]
      exact run_expire parked heard due
    · refine ⟨[], by simp, ?_⟩
      rw [if_neg due]
      simp [run, answer, station, parcel?, ← parked]
  · have woken : lobby.move (.wake number) =
        lobby.withReceiver number (.ready waiting.channels waiting.deadline) := by
      simp only [move, parked]
      exact if_neg heard
    have round : lobby.run [.wake number, .enable number, .look number waiting.channels] =
        lobby.answer number
          (outcome ⟨waiting.channels, waiting.deadline, lobby.store.announcements⟩
            (lobby.store.take lobby.now waiting.channels).1,
          (lobby.store.take lobby.now waiting.channels).2) := by
      rw [run, List.foldl_cons, woken]
      refine (run_round (receivers_withReceiver_self ..)).trans ?_
      rw [answer_withReceiver]
      rfl
    rw [if_neg heard]
    have again := @Store.take_again lobby.store lobby.now waiting.channels
    have same := Store.announcements_take lobby.store lobby.now waiting.channels
    generalize lobby.store.take lobby.now waiting.channels = looked at round again same ⊢
    rcases looked with ⟨_ | ⟨channel, message⟩, store⟩
    · by_cases due : waiting.deadline ≤ lobby.now
      · refine ⟨[.wake number, .enable number, .look number waiting.channels, .expire number,
          .lookAgain number waiting.channels], by simp, ?_⟩
        have split : lobby.run [.wake number, .enable number, .look number waiting.channels,
            .expire number, .lookAgain number waiting.channels] =
            (lobby.run [.wake number, .enable number, .look number waiting.channels]).run
              [.expire number, .lookAgain number waiting.channels] := rfl
        rw [split, round]
        have parkedAgain := receivers_answer_self lobby number
          (outcome ⟨waiting.channels, waiting.deadline, lobby.store.announcements⟩ none, store)
        refine (run_expire parkedAgain same.symm due).trans ?_
        refine (answer_waiting ..).trans ?_
        dsimp only [answer, Store.lastLook]
        rw [if_pos due, again rfl]
        rfl
      · refine ⟨_, by simp, round.trans ?_⟩
        dsimp only at same ⊢
        rw [if_neg due, same]
        rfl
    · exact ⟨_, by simp, round⟩

end Lobby

end Courier
