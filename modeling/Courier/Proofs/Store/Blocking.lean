import Courier.Proofs.Store.Quiet

/-!
# Blocking receives in time

A receiver that is alone comes back at the first moment at which one of its channels holds a live
message, and with nothing just at its deadline. A live message stays where it is until somebody
finds it, so whoever has one in its channels comes back before time passes.

A receiver on no channels is the exception: it comes back with nothing at once.
-/

namespace Courier

theorem Store.live_of_take (store : Store) (now : Instant) {order : List String} {channel : String}
    {message : Message} (taken : (store.take now order).1 = some (channel, message)) :
    ∃ others, store.live now channel = message :: others := by
  have step := queueStep_take store now channel order
  rw [taken, receiptOf, Receipt.from?, if_pos rfl] at step
  rcases step.filter_live_of_taken with ⟨queued, rfl, alive⟩
  refine ⟨((store.take now order).2.live now channel), ?_⟩
  rw [live, alive]
  rfl

theorem Store.live_push (store : Store) (now : Instant) (channel : String) (message : Message)
    (other : String) :
    store.live now other <+: (store.push now channel message).2.live now other := by
  have live_of_step : ∀ {after : Store} {added : Option Queued},
      QueueStep now (store.queue other) added none (after.queue other) →
        store.live now other <+: after.live now other := by
    intro after added step
    rw [Store.live, Store.live]
    generalize store.queue other = before at step ⊢
    generalize after.queue other = behind at step ⊢
    cases step with
    | dropped expired => simp [filter_live_of_expired expired]
    | added expired queued => simp [filter_live_of_expired expired]
  rcases store.push_cases now channel message with ⟨after, refused, steps⟩ | ⟨after, accepted, steps⟩
  · rw [refused]
    exact live_of_step (steps other)
  · rw [accepted]
    exact live_of_step (steps other)

namespace Lobby

variable {lobby : Lobby}

/-! ## Moves and live messages -/

/-- A move lets time pass, or leaves live messages where they are, or somebody comes back with
one. -/
theorem live_move (lobby : Lobby) (move : Move) :
    (∃ duration, move = .wait duration) ∨
      ((lobby.move move).now = lobby.now ∧ ∀ channel,
        lobby.store.live lobby.now channel <+: (lobby.move move).store.live lobby.now channel) ∨
      ∃ number found, ¬Idle (lobby.receivers number) ∧
        (lobby.move move).receivers number = .done (some found) lobby.now := by
  have live_take : ∀ {order}, (lobby.store.take lobby.now order).1 = none → ∀ channel,
      lobby.store.live lobby.now channel <+:
        (lobby.store.take lobby.now order).2.live lobby.now channel := by
    intro order nothing channel
    rcases lobby.store.take_spec lobby.now order with ⟨-, -, steps⟩ | ⟨_, -, _, taken, -⟩
    · simp [Store.live, (steps channel).filter_live_of_dropped]
    · rw [taken] at nothing
      cases nothing
  have effect := effect_move lobby move
  generalize lobby.move move = after at effect
  cases effect with
  | waits => exact Or.inl ⟨_, rfl⟩
  | @pushes channel message store accepted =>
      have kept := lobby.store.live_push lobby.now channel message
      rw [accepted] at kept
      exact Or.inr (Or.inl ⟨rfl, kept⟩)
  | @refuses channel message error store refused =>
      have kept := lobby.store.live_push lobby.now channel message
      rw [refused] at kept
      exact Or.inr (Or.inl ⟨rfl, kept⟩)
  | notifies | begins | goesOn | still => exact Or.inr (Or.inl ⟨rfl, fun _ => List.prefix_rfl⟩)
  | @looks _ number order next look =>
      have underway := look.not_idle
      generalize lobby.receivers number = before at look
      cases look with
      | parks perm nothing => exact Or.inr (Or.inl ⟨rfl, live_take nothing⟩)
      | finds => exact Or.inr (Or.inr ⟨number, _, underway, receivers_withReceiver_self ..⟩)
      | returns =>
          cases taken : (lobby.store.take lobby.now order).1 with
          | none => exact Or.inr (Or.inl ⟨rfl, live_take taken⟩)
          | some found =>
              exact Or.inr (Or.inr ⟨number, found, underway, receivers_withReceiver_self ..⟩)

theorem exists_take_of_done {own : Nat} {found : Option (String × Message)} {moment : Instant}
    {move : Move} (still : move.begins = false)
    (undone : ∀ found moment, lobby.receivers own ≠ .done found moment)
    (done : (lobby.move move).receivers own = .done found moment) :
    lobby.now = moment ∧ ∃ order, (lobby.store.take lobby.now order).1 = found := by
  have effect := effect_move lobby move
  generalize lobby.move move = after at effect done
  cases effect with
  | waits | pushes | refuses | notifies | still => exact absurd done (undone _ _)
  | begins => cases still
  | @goesOn _ number next goes =>
      by_cases isOwn : own = number
      · subst isOwn
        rw [receivers_withReceiver_self] at done
        subst done
        generalize lobby.receivers own = before at goes
        cases goes
      · rw [receivers_withReceiver_of_ne isOwn] at done
        exact absurd done (undone _ _)
  | @looks _ number order next look =>
      by_cases isOwn : own = number
      · subst isOwn
        rw [receivers_withReceiver_self] at done
        subst done
        generalize lobby.receivers own = before at look
        cases look with
        | finds perm taken => exact ⟨rfl, _, taken⟩
        | returns perm => exact ⟨rfl, _, rfl⟩
      · rw [receivers_withReceiver_of_ne isOwn] at done
        exact absurd done (undone _ _)

/-- A receiver that comes back with a message has found it as the first live one of its channel, at
that moment. -/
theorem exists_found {own : Nat} {channel : String} {message : Message} {moment : Instant}
    (moves : List Move) (noneBegin : ∀ move ∈ moves, move.begins = false)
    (undone : ∀ found moment, lobby.receivers own ≠ .done found moment)
    (done : (lobby.run moves).receivers own = .done (some (channel, message)) moment) :
    ∃ first rest, moves = first ++ rest ∧ (lobby.run first).now = moment ∧
      ∃ others, (lobby.run first).store.live moment channel = message :: others := by
  induction moves generalizing lobby with
  | nil => exact absurd done (undone _ _)
  | cons move rest ih =>
      by_cases now : ∃ found moment, (lobby.move move).receivers own = .done found moment
      · -- it is this move by which the receiver comes back
        rcases now with ⟨found, earlier, comes⟩
        have later : (lobby.run (move :: rest)).receivers own = .done found earlier :=
          done_run comes rest
        rw [done] at later
        cases later
        rcases exists_take_of_done (noneBegin move List.mem_cons_self) undone comes with
          ⟨rfl, order, taken⟩
        exact ⟨[], move :: rest, rfl, rfl, Store.live_of_take _ _ taken⟩
      · have undoneStill : ∀ found moment,
            (lobby.move move).receivers own ≠ .done found moment :=
          fun found moment comes => now ⟨found, moment, comes⟩
        rcases ih (fun other mem => noneBegin other (List.mem_cons_of_mem move mem)) undoneStill
          done with ⟨first, behind, rfl, isNow, live⟩
        exact ⟨move :: first, behind, rfl, isNow, live⟩

theorem Lone.begin {own : Nat} {channels : List String} (sound : Sound lobby)
    (away : lobby.receivers own = .away)
    (idle : ∀ other, other ≠ own → Idle (lobby.receivers other)) (some : channels ≠ []) :
    Lone own channels lobby.now (lobby.now + lobby.store.settings.receiveTimeout)
      (lobby.move (.begin own channels)) ∧
      (lobby.move (.begin own channels)).receivers own =
        .ready channels (lobby.now + lobby.store.settings.receiveTimeout) := by
  have notEmpty : channels.isEmpty = false := by
    cases channels with
    | nil => exact absurd rfl some
    | cons first rest => rfl
  have moved : lobby.move (.begin own channels) = lobby.withReceiver own
      (.ready channels (lobby.now + lobby.store.settings.receiveTimeout)) := by
    simp [Lobby.move, away, notEmpty]
  have sound := sound.move (.begin own channels)
  rw [moved] at sound ⊢
  refine ⟨⟨sound, ?_, Nat.le_refl _, ?_⟩, receivers_withReceiver_self ..⟩
  · intro other differ
    rw [receivers_withReceiver_of_ne differ]
    exact idle other differ
  · rw [receivers_withReceiver_self]
    exact ⟨rfl, rfl, Nat.le_add_right _ _⟩

/-! ## What is known of a receiver that is alone -/

/-- A receiver has begun in a lobby and is the only one: what is known of it after some moves. -/
structure Punctual (begun : Lobby) (own : Nat) (channels : List String) (deadline : Instant)
    (moves : List Move) : Prop where
  /-- Where everything is quiet, it has come back, or nothing in its channels is alive and its time is
  not up. -/
  waits : (begun.run moves).Quiet →
    (∃ found moment, (begun.run moves).receivers own = .done found moment) ∨
      (begun.run moves).now < deadline ∧
        ∀ channel ∈ channels, (begun.run moves).store.live (begun.run moves).now channel = []
  /-- Everything becomes quiet before time passes. -/
  settles : (begun.run moves).Settles
  nothing : ∀ moment, (begun.run moves).receivers own = .done none moment → moment = deadline
  found : ∀ channel message moment,
    (begun.run moves).receivers own = .done (some (channel, message)) moment →
      channel ∈ channels ∧ moment ≤ deadline ∧
        ∃ first rest, moves = first ++ rest ∧ (begun.run first).now = moment ∧
          ∃ others, (begun.run first).store.live moment channel = message :: others
  /-- At no earlier moment there was a live message in its channels. -/
  earliest : ∀ found moment, (begun.run moves).receivers own = .done found moment →
    ∀ first rest, moves = first ++ rest → (begun.run first).now < moment →
      ∀ channel ∈ channels, (begun.run first).store.live (begun.run first).now channel = []

namespace Lone

variable {own : Nat} {channels : List String} {start deadline : Instant}

theorem live_of_quiet (lone : Lone own channels start deadline lobby) (quiet : lobby.Quiet) :
    (∃ found moment, lobby.receivers own = .done found moment) ∨
      lobby.now < deadline ∧ ∀ channel ∈ channels, lobby.store.live lobby.now channel = [] := by
  rcases lone.quiet quiet with done | ⟨soon, empty⟩
  · exact Or.inl done
  · refine Or.inr ⟨soon, ?_⟩
    intro channel listed
    rw [Store.live, empty channel listed]
    rfl

theorem moment_le (lone : Lone own channels start deadline lobby)
    {found : Option (String × Message)} {moment : Instant}
    (done : lobby.receivers own = .done found moment) : moment ≤ lobby.now := by
  have phase := lone.phase
  rw [done] at phase
  rcases found with _ | ⟨channel, message⟩
  · exact phase.2
  · exact phase.2.2.2

/-- A receiver with a live message in its channels comes back before time passes. -/
theorem moment_of_live (lone : Lone own channels start deadline lobby) {moves : List Move}
    (prompt : lobby.Prompt moves) (noneBegin : ∀ move ∈ moves, move.begins = false)
    (undone : ∀ found moment, lobby.receivers own ≠ .done found moment) {channel : String}
    (listed : channel ∈ channels) (alive : lobby.store.live lobby.now channel ≠ [])
    {found : Option (String × Message)} {moment : Instant}
    (done : (lobby.run moves).receivers own = .done found moment) : moment = lobby.now := by
  induction moves generalizing lobby with
  | nil => exact absurd done (undone _ _)
  | cons move rest ih =>
      have still := noneBegin move List.mem_cons_self
      by_cases now : ∃ found moment, (lobby.move move).receivers own = .done found moment
      · rcases now with ⟨other, instant, comes⟩
        have later : (lobby.run (move :: rest)).receivers own = .done other instant :=
          done_run comes rest
        rw [done] at later
        cases later
        exact (exists_take_of_done still undone comes).1.symm
      · have undoneStill : ∀ found moment,
            (lobby.move move).receivers own ≠ .done found moment :=
          fun found moment comes => now ⟨found, moment, comes⟩
        rcases live_move lobby move with ⟨duration, rfl⟩ | ⟨same, kept⟩ | ⟨number, taken, began, comes⟩
        · -- time passes only where nothing is left in its channels
          rcases lone.live_of_quiet prompt.1.1 with ⟨other, instant, already⟩ | ⟨-, nothing⟩
          · exact absurd already (undone _ _)
          · exact absurd (nothing channel listed) alive
        · rw [← same]
          apply ih (lone.move prompt.1 still) prompt.2 _ undoneStill _ done
          · intro other mem
            exact noneBegin other (List.mem_cons_of_mem move mem)
          · rw [same]
            intro nothing
            have isPrefix := kept channel
            rw [nothing] at isPrefix
            exact alive (List.prefix_nil.mp isPrefix)
        · have isOwn : number = own := by
            by_contra differ
            exact began (lone.others number differ)
          subst isOwn
          exact absurd comes (undoneStill _ _)

theorem punctual (lone : Lone own channels start deadline lobby)
    (undone : ∀ found moment, lobby.receivers own ≠ .done found moment) {moves : List Move}
    (prompt : lobby.Prompt moves) (noneBegin : ∀ move ∈ moves, move.begins = false) :
    Punctual lobby own channels deadline moves := by
  have later := lone.run prompt noneBegin
  refine ⟨later.live_of_quiet, later.settles, ?_, ?_, ?_⟩
  · intro moment done
    have phase := later.phase
    rw [done] at phase
    exact phase.1
  · intro channel message moment done
    have phase := later.phase
    rw [done] at phase
    exact ⟨phase.1, phase.2.2.1, exists_found moves noneBegin undone done⟩
  · rintro found moment done first rest rfl early channel listed
    rw [prompt_append] at prompt
    have before := lone.run prompt.1 fun move mem =>
      noneBegin move (List.mem_append_left rest mem)
    rw [run_append] at done
    by_contra alive
    by_cases already : ∃ found moment, (lobby.run first).receivers own = .done found moment
    · -- who had come back earlier has not come back at this moment
      rcases already with ⟨other, instant, already⟩
      have still := done_run already rest
      rw [done] at still
      cases still
      exact absurd (before.moment_le already) (Nat.not_le.mpr early)
    · have moment := before.moment_of_live prompt.2
        (fun move mem => noneBegin move (List.mem_append_right first mem))
        (fun found moment comes => already ⟨found, moment, comes⟩) listed alive done
      exact absurd moment (Nat.ne_of_gt early)

end Lone

/-! ## Main result -/

/-- In every run, whatever waits in the channels of a receiver that is parked and not woken is still
to be announced, no message is found twice, and who receives alone comes back in time. -/
theorem waiting_receivers_miss_nothing (now : Instant) (settings : StoreSettings)
    (moves : List Move) :
    let lobby := (opening now settings).run moves
    (∀ number waiting, lobby.receivers number = .parked waiting →
        waiting.heard = lobby.store.announcements → ∀ channel ∈ waiting.channels,
          (lobby.pending channel).map Post.message =
              (lobby.store.queue channel).map Queued.message ∧
            ∀ post ∈ lobby.pending channel, post.notified = false) ∧
      (lobby.returned.Subperm lobby.sent ∧ (lobby.found.map Prod.fst).Nodup ∧
        ∀ number parcel, (number, parcel) ∈ lobby.found ↔
          ∃ moment, lobby.receivers number = .done (some parcel) moment) ∧
      ∀ own channels after, lobby.receivers own = .away →
        (∀ other, other ≠ own → Idle (lobby.receivers other)) → channels ≠ [] →
        (lobby.move (.begin own channels)).Prompt after →
        (∀ move ∈ after, move.begins = false) →
          Punctual (lobby.move (.begin own channels)) own channels
            (lobby.now + settings.receiveTimeout) after := by
  intro lobby
  have sound : Sound lobby := (sound_opening now settings).run moves
  have told : Told lobby := (told_opening now settings).run moves
  refine ⟨?_, ⟨sound.returned_subperm, told.once, told.iff⟩, ?_⟩
  · intro number waiting parked heard channel listed
    exact ⟨sound.pending_messages channel,
      sound.owed number waiting parked heard channel listed⟩
  · intro own channels after away idle some prompt noneBegin
    have same : lobby.store.settings = settings := settings_run (opening now settings) moves
    rcases Lone.begin sound away idle some with ⟨lone, ready⟩
    rw [same] at lone ready
    refine lone.punctual ?_ prompt noneBegin
    intro found moment done
    rw [ready] at done
    cases done

/-- A receiver that waits for a message of its channel is woken by it, five nanoseconds after it has
begun. -/
theorem waiting_receivers_miss_nothing_woken :
    let parked := (opening 0 {}).run [.begin 0 ["a"], .enable 0, .look 0 ["a"], .push "a" .empty]
    let begun := (opening 0 {}).move (.begin 0 ["a"])
    let after : List Move := [.enable 0, .look 0 ["a"], .wait 5, .push "a" .empty, .notify 0,
      .wake 0, .enable 0, .look 0 ["a"]]
    (parked.receivers 0 = .parked ⟨["a"], 1000000000, 0⟩ ∧ parked.store.announcements = 0 ∧
        parked.pending "a" = [⟨"a", .empty, false⟩] ∧
        ∀ post ∈ parked.pending "a", post.notified = false) ∧
      begun.Prompt after ∧ Punctual begun 0 ["a"] 1000000000 after ∧
        (begun.run after).receivers 0 = .done (some ("a", .empty)) 5 := by
  intro parked begun after
  have prompt : begun.Prompt after := by
    refine ⟨trivial, trivial, ⟨⟨?_, ?_⟩, ?_⟩, trivial, trivial, trivial, trivial, trivial, trivial⟩
    · intro post mem
      cases mem
    · intro number
      cases number with
      | zero => exact ⟨rfl, by decide⟩
      | succ number => trivial
    · intro number waiting isParked
      cases number with
      | zero =>
          cases isParked
          decide
      | succ number => cases isParked
  refine ⟨⟨rfl, rfl, rfl, ?_⟩, prompt, ?_, rfl⟩
  · have missed := (waiting_receivers_miss_nothing 0 {} [.begin 0 ["a"], .enable 0, .look 0 ["a"],
      .push "a" .empty]).1 0 _ rfl rfl "a" (by simp)
    exact missed.2
  · apply (waiting_receivers_miss_nothing 0 {} []).2.2 0 ["a"] after rfl _ (by simp) prompt
    · intro move mem
      simp only [after, List.mem_cons, List.not_mem_nil, or_false] at mem
      rcases mem with rfl | rfl | rfl | rfl | rfl | rfl | rfl | rfl <;> rfl
    · intro other _
      trivial

/-- A receiver on no channels comes back with nothing at once, long before its time would be up. -/
theorem receiver_on_no_channels :
    let begun := (opening 0 {}).move (.begin 0 [])
    begun.receivers 0 = .done none 0 ∧ 0 < StoreSettings.receiveTimeout {} ∧
      ¬Punctual begun 0 [] (StoreSettings.receiveTimeout {}) [] := by
  intro begun
  refine ⟨rfl, by decide, ?_⟩
  intro punctual
  have moment := punctual.nothing 0 rfl
  revert moment
  decide

end Lobby

end Courier
