import Courier.Proofs.Store.Wakeups

/-!
# When a lobby is quiet

On a clock that stands still until everybody has done what there is to do, time passes only where all
posts are announced and every receiver rests. A receiver that is alone goes through its stations
within its time, and wherever everything is quiet it has come back, or nothing waits in its channels:
what waits there would be still to be announced. Everything does become quiet, by moves that are owed
anyhow, before time passes.
-/

namespace Courier.Lobby

variable {lobby : Lobby}

/-! ## A prompt clock -/

/-- A receiver has nothing to do before something else happens. -/
def Resting (now : Instant) (announcements : Nat) : Receiver → Prop
  | .away | .done _ _ => True
  | .parked waiting => waiting.heard = announcements ∧ now < waiting.deadline
  | .ready _ _ | .enabled _ | .late _ => False

theorem Idle.resting {now : Instant} {announcements : Nat} {station : Receiver}
    (idle : Idle station) : Resting now announcements station := by
  cases station with
  | away | done _ _ => trivial
  | ready _ _ | enabled _ | parked _ | late _ => cases idle

/-- All posts are announced, and no receiver has anything to do. -/
structure Quiet (lobby : Lobby) : Prop where
  announced : ∀ post ∈ lobby.posts, post.notified = true
  resting : ∀ number, Resting lobby.now lobby.store.announcements (lobby.receivers number)

/-- Time passes only where everything is quiet, and not beyond a deadline. -/
def OnTime (lobby : Lobby) : Move → Prop
  | .wait duration => lobby.Quiet ∧ ∀ number waiting, lobby.receivers number = .parked waiting →
      lobby.now + duration ≤ waiting.deadline
  | _ => True

def Prompt (lobby : Lobby) : List Move → Prop
  | [] => True
  | move :: rest => lobby.OnTime move ∧ (lobby.move move).Prompt rest

theorem prompt_append {first second : List Move} :
    lobby.Prompt (first ++ second) ↔ lobby.Prompt first ∧ (lobby.run first).Prompt second := by
  induction first generalizing lobby with
  | nil => simp [Prompt, run]
  | cons move rest ih =>
      simp only [List.cons_append, Prompt, ih, and_assoc]
      rfl

/-- Whether somebody begins to receive. -/
def Move.begins : Move → Bool
  | .begin _ _ => true
  | _ => false

/-- Whether a move is one that receivers and senders owe: no time passes, nothing new is pushed, and
nobody begins to receive. -/
def Move.owed : Move → Bool
  | .wait _ | .push _ _ | .begin _ _ => false
  | _ => true

theorem done_move {number : Nat} {found : Option (String × Message)} {moment : Instant}
    (done : lobby.receivers number = .done found moment) (move : Move) :
    (lobby.move move).receivers number = .done found moment := by
  have effect := effect_move lobby move
  generalize lobby.move move = after at effect
  cases effect with
  | waits | pushes | refuses | notifies | still => exact done
  | begins away opens =>
      rw [receivers_withReceiver_of_ne _, done]
      rintro rfl
      rw [away] at done
      cases done
  | goesOn goes =>
      rw [receivers_withReceiver_of_ne _, done]
      rintro rfl
      exact goes.not_done found moment done
  | looks look =>
      apply (receivers_withReceiver_of_ne _ _).trans done
      rintro rfl
      exact look.not_done found moment done

theorem done_run {number : Nat} {found : Option (String × Message)} {moment : Instant}
    (done : lobby.receivers number = .done found moment) (moves : List Move) :
    (lobby.run moves).receivers number = .done found moment := by
  induction moves generalizing lobby with
  | nil => exact done
  | cons move rest ih => exact ih (done_move done move)

/-! ## A receiver that is alone -/

/-- How far a receiver may have come. -/
def Phase (channels : List String) (start deadline now : Instant) : Receiver → Prop
  | .away => False
  | .ready listed limit => listed = channels ∧ limit = deadline ∧ now ≤ deadline
  | .enabled waiting | .parked waiting =>
      waiting.channels = channels ∧ waiting.deadline = deadline ∧ now ≤ deadline
  | .late listed => listed = channels ∧ now = deadline
  | .done none moment => moment = deadline ∧ moment ≤ now
  | .done (some (channel, _)) moment =>
      channel ∈ channels ∧ start ≤ moment ∧ moment ≤ deadline ∧ moment ≤ now

section Phases

variable {channels : List String} {start deadline : Instant}

theorem Phase.goesOn {before next : Receiver}
    (phase : Phase channels start deadline lobby.now before) (goes : lobby.GoesOn before next) :
    Phase channels start deadline lobby.now next := by
  cases goes with
  | enables | wakes => exact phase
  | expires due =>
      rcases phase with ⟨listed, rfl, soon⟩
      exact ⟨listed, Nat.le_antisymm soon due⟩

theorem Phase.looks {before next : Receiver} (begun : start ≤ lobby.now)
    (phase : Phase channels start deadline lobby.now before) {order : List String}
    (look : lobby.Looks order before next) : Phase channels start deadline lobby.now next := by
  have listed : ∀ {found}, order.Perm channels →
      (lobby.store.take lobby.now order).1 = some found → found.1 ∈ channels := by
    intro found perm taken
    exact perm.mem_iff.mp (Store.mem_of_take lobby.store lobby.now taken)
  cases look with
  | parks => exact phase
  | finds perm taken =>
      rcases phase with ⟨rfl, -, soon⟩
      exact ⟨listed perm taken, begun, soon, Nat.le_refl _⟩
  | returns perm =>
      rcases phase with ⟨rfl, isDeadline⟩
      cases taken : (lobby.store.take lobby.now order).1 with
      | none => exact ⟨isDeadline, Nat.le_refl _⟩
      | some found =>
          exact ⟨listed perm taken, begun, Nat.le_of_eq isDeadline, Nat.le_refl _⟩

theorem Phase.wait {now : Instant} {announcements : Nat} {station : Receiver}
    (phase : Phase channels start deadline now station) (resting : Resting now announcements station)
    (duration : Duration)
    (inTime : ∀ waiting, station = .parked waiting → now + duration ≤ waiting.deadline) :
    Phase channels start deadline (now + duration) station := by
  cases station with
  | away => cases phase
  | ready _ _ | enabled _ | late _ => cases resting
  | parked waiting =>
      rcases phase with ⟨listed, rfl, -⟩
      exact ⟨listed, rfl, inTime waiting rfl⟩
  | done found moment =>
      rcases found with _ | ⟨channel, message⟩
      · exact ⟨phase.1, Nat.le_trans phase.2 (Nat.le_add_right _ _)⟩
      · exact ⟨phase.1, phase.2.1, phase.2.2.1,
          Nat.le_trans phase.2.2.2 (Nat.le_add_right _ _)⟩

end Phases

/-- Only one receiver is under way since the start. -/
structure Lone (own : Nat) (channels : List String) (start deadline : Instant) (lobby : Lobby) :
    Prop where
  sound : Sound lobby
  others : ∀ other, other ≠ own → Idle (lobby.receivers other)
  begun : start ≤ lobby.now
  phase : Phase channels start deadline lobby.now (lobby.receivers own)

namespace Lone

variable {own : Nat} {channels : List String} {start deadline : Instant}

theorem turn (lone : Lone own channels start deadline lobby) {after : Lobby} {next : Receiver}
    (receivers : after.receivers = lobby.receivers) (now : after.now = lobby.now)
    (sound : Sound (after.withReceiver own next))
    (phase : Phase channels start deadline lobby.now next) :
    Lone own channels start deadline (after.withReceiver own next) := by
  have begun := lone.begun
  rw [← now] at begun phase
  refine ⟨sound, ?_, begun, ?_⟩
  · intro other differ
    rw [receivers_withReceiver_of_ne differ, receivers]
    exact lone.others other differ
  · rw [receivers_withReceiver_self]
    exact phase

theorem eq_own (lone : Lone own channels start deadline lobby) {number : Nat}
    (underway : ¬Idle (lobby.receivers number)) : number = own := by
  by_contra differ
  exact underway (lone.others number differ)

theorem move (lone : Lone own channels start deadline lobby) {move : Move}
    (onTime : lobby.OnTime move) (noneBegins : move.begins = false) :
    Lone own channels start deadline (lobby.move move) := by
  have sound := lone.sound.move move
  have effect := effect_move lobby move
  generalize lobby.move move = after at effect sound
  cases effect with
  | waits =>
      refine ⟨sound, lone.others, Nat.le_trans lone.begun (Nat.le_add_right _ _), ?_⟩
      exact lone.phase.wait (onTime.1.resting own) _ (onTime.2 own)
  | pushes | refuses | notifies => exact ⟨sound, lone.others, lone.begun, lone.phase⟩
  | begins => cases noneBegins
  | goesOn goes =>
      cases lone.eq_own goes.not_idle
      exact lone.turn rfl rfl sound (lone.phase.goesOn goes)
  | looks look =>
      cases lone.eq_own look.not_idle
      exact lone.turn rfl rfl sound (lone.phase.looks lone.begun look)
  | still => exact lone

theorem run (lone : Lone own channels start deadline lobby) {moves : List Move}
    (prompt : lobby.Prompt moves) (noneBegin : ∀ move ∈ moves, move.begins = false) :
    Lone own channels start deadline (lobby.run moves) := by
  induction moves generalizing lobby with
  | nil => exact lone
  | cons move rest ih =>
      apply ih (lone.move prompt.1 (noneBegin move List.mem_cons_self)) prompt.2
      intro other mem
      exact noneBegin other (List.mem_cons_of_mem move mem)

/-- Where everything is quiet, the receiver is done, or nothing waits in its channels. -/
theorem quiet (lone : Lone own channels start deadline lobby) (quiet : lobby.Quiet) :
    (∃ found moment, lobby.receivers own = .done found moment) ∨
      lobby.now < deadline ∧ ∀ channel ∈ channels, lobby.store.queue channel = [] := by
  have phase := lone.phase
  have resting := quiet.resting own
  cases station : lobby.receivers own with
  | away => simp [station, Phase] at phase
  | ready _ _ | enabled _ | late _ => simp [station, Resting] at resting
  | done found moment => exact Or.inl ⟨found, moment, rfl⟩
  | parked waiting =>
      rw [station] at phase resting
      rcases phase with ⟨rfl, rfl, -⟩
      refine Or.inr ⟨resting.2, ?_⟩
      intro channel listed
      -- what waits is still to be announced, but all is announced
      have nothing : lobby.pending channel = [] := by
        rw [List.eq_nil_iff_forall_not_mem]
        intro post mem
        have owed := lone.sound.owed own waiting station resting.1 channel listed post mem
        have isPost : post ∈ lobby.posts :=
          List.mem_of_mem_filter (List.mem_of_mem_drop mem)
        rw [quiet.announced post isPost] at owed
        cases owed
      have messages := lone.sound.pending_messages channel
      rw [nothing] at messages
      exact List.map_eq_nil_iff.mp messages.symm

end Lone

/-! ## Everything becomes quiet -/

/-- By moves that receivers and senders owe, everything becomes quiet before time passes. -/
def Settles (lobby : Lobby) : Prop :=
  ∃ moves, (∀ move ∈ moves, move.owed = true) ∧ (lobby.run moves).Quiet ∧
    (lobby.run moves).now = lobby.now

theorem Settles.step (first : Move) (isOwed : first.owed = true) {next : Lobby}
    (moved : lobby.move first = next) (now : next.now = lobby.now) (settles : next.Settles) :
    lobby.Settles := by
  rcases settles with ⟨moves, owed, quiet, later⟩
  refine ⟨first :: moves, ?_, ?_, ?_⟩
  · intro move mem
    rcases List.mem_cons.mp mem with rfl | inRest
    · exact isOwed
    · exact owed move inRest
  · rw [run, List.foldl_cons, moved]
    exact quiet
  · rw [run, List.foldl_cons, moved, ← now]
    exact later

/-- All posts are announced, and only one receiver is under way. -/
structure Awaits (own : Nat) (lobby : Lobby) : Prop where
  announced : ∀ post ∈ lobby.posts, post.notified = true
  others : ∀ other, other ≠ own → Idle (lobby.receivers other)

namespace Awaits

variable {own : Nat}

theorem update (awaits : Awaits own lobby) (next : Receiver) :
    Awaits own (lobby.withReceiver own next) := by
  refine ⟨awaits.announced, ?_⟩
  intro other differ
  rw [receivers_withReceiver_of_ne differ]
  exact awaits.others other differ

theorem glance (awaits : Awaits own lobby) (order : List String) :
    Awaits own (lobby.glance own order) :=
  ⟨awaits.announced, awaits.others⟩

theorem quiet (awaits : Awaits own lobby)
    (resting : Resting lobby.now lobby.store.announcements (lobby.receivers own)) :
    lobby.Quiet := by
  refine ⟨awaits.announced, ?_⟩
  intro number
  by_cases isOwn : number = own
  · rw [isOwn]
    exact resting
  · exact (awaits.others number isOwn).resting

theorem settles_of_resting (awaits : Awaits own lobby)
    (resting : Resting lobby.now lobby.store.announcements (lobby.receivers own)) :
    lobby.Settles :=
  ⟨[], by simp, awaits.quiet resting, rfl⟩

theorem settles_of_done (awaits : Awaits own lobby) {found : Option (String × Message)}
    {moment : Instant} (station : lobby.receivers own = .done found moment) : lobby.Settles := by
  apply awaits.settles_of_resting
  rw [station]
  trivial

theorem settles_of_late (awaits : Awaits own lobby) {channels : List String}
    (station : lobby.receivers own = .late channels) : lobby.Settles := by
  have moved : lobby.move (.lookAgain own channels) = (lobby.glance own channels).withReceiver own
      (.done (lobby.store.take lobby.now channels).1 lobby.now) := by
    simp only [Lobby.move, station]
    exact if_pos (List.Perm.refl _)
  refine Settles.step _ rfl moved rfl ?_
  exact ((awaits.glance channels).update _).settles_of_done (receivers_withReceiver_self ..)

theorem settles_of_parked (awaits : Awaits own lobby) {waiting : Waiting}
    (station : lobby.receivers own = .parked waiting)
    (current : waiting.heard = lobby.store.announcements) : lobby.Settles := by
  by_cases soon : lobby.now < waiting.deadline
  · apply awaits.settles_of_resting
    rw [station]
    exact ⟨current, soon⟩
  · have moved : lobby.move (.expire own) = lobby.withReceiver own (.late waiting.channels) := by
      simp only [Lobby.move, station]
      exact if_pos ⟨current, Nat.le_of_not_lt soon⟩
    refine Settles.step _ rfl moved rfl ?_
    exact (awaits.update _).settles_of_late (receivers_withReceiver_self ..)

theorem settles_of_enabled (awaits : Awaits own lobby) {waiting : Waiting}
    (station : lobby.receivers own = .enabled waiting)
    (parks : ∀ {next : Lobby}, Awaits own next → next.receivers own = .parked waiting →
      next.store.announcements = lobby.store.announcements → next.Settles) : lobby.Settles := by
  cases looked : (lobby.store.take lobby.now waiting.channels).1 with
  | some found =>
      have moved : lobby.move (.look own waiting.channels) =
          (lobby.glance own waiting.channels).withReceiver own (.done (some found) lobby.now) := by
        simp only [Lobby.move, station, looked]
        exact if_pos (List.Perm.refl _)
      refine Settles.step _ rfl moved rfl ?_
      exact ((awaits.glance _).update _).settles_of_done (receivers_withReceiver_self ..)
  | none =>
      have moved : lobby.move (.look own waiting.channels) =
          (lobby.glance own waiting.channels).withReceiver own (.parked waiting) := by
        simp only [Lobby.move, station, looked]
        exact if_pos (List.Perm.refl _)
      refine Settles.step _ rfl moved rfl ?_
      apply parks ((awaits.glance _).update _) (receivers_withReceiver_self ..)
      exact Store.announcements_take _ _ _

theorem settles_of_ready (awaits : Awaits own lobby) {channels : List String} {deadline : Instant}
    (station : lobby.receivers own = .ready channels deadline) : lobby.Settles := by
  have moved : lobby.move (.enable own) =
      lobby.withReceiver own (.enabled ⟨channels, deadline, lobby.store.announcements⟩) := by
    simp only [Lobby.move, station]
  refine Settles.step _ rfl moved rfl ?_
  apply (awaits.update _).settles_of_enabled (receivers_withReceiver_self ..)
  intro next awaits parked same
  exact awaits.settles_of_parked parked same.symm

theorem settles_of_woken (awaits : Awaits own lobby) {waiting : Waiting}
    (station : lobby.receivers own = .parked waiting) : lobby.Settles := by
  by_cases current : waiting.heard = lobby.store.announcements
  · exact awaits.settles_of_parked station current
  · have moved : lobby.move (.wake own) =
        lobby.withReceiver own (.ready waiting.channels waiting.deadline) := by
      simp only [Lobby.move, station]
      exact if_neg current
    refine Settles.step _ rfl moved rfl ?_
    exact (awaits.update _).settles_of_ready (receivers_withReceiver_self ..)

theorem settles (awaits : Awaits own lobby) : lobby.Settles := by
  cases station : lobby.receivers own with
  | away =>
      apply awaits.settles_of_resting
      rw [station]
      trivial
  | done found moment => exact awaits.settles_of_done station
  | ready channels deadline => exact awaits.settles_of_ready station
  | late channels => exact awaits.settles_of_late station
  | parked waiting => exact awaits.settles_of_woken station
  | enabled waiting =>
      apply awaits.settles_of_enabled station
      intro next awaits parked _
      exact awaits.settles_of_woken parked

end Awaits

theorem announced_run (lobby : Lobby) (count : Nat) :
    let after := lobby.run ((List.range count).map .notify)
    (∀ number post, after.posts[number]? = some post → number < count → post.notified = true) ∧
      after.posts.length = lobby.posts.length ∧ after.receivers = lobby.receivers ∧
      after.now = lobby.now := by
  induction count with
  | zero => simp [run]
  | succ count ih =>
      rw [List.range_succ, List.map_append, run_append]
      generalize lobby.run ((List.range count).map .notify) = between at ih ⊢
      rcases ih with ⟨announced, length, receivers, now⟩
      simp only [run, List.map_cons, List.map_nil, List.foldl_cons, List.foldl_nil, Lobby.move]
      cases found : between.posts[count]? with
      | none =>
          refine ⟨?_, length, receivers, now⟩
          intro number post there small
          rcases Nat.lt_succ_iff_lt_or_eq.mp small with old | rfl
          · exact announced number post there old
          · rw [found] at there
            cases there
      | some held =>
          dsimp only
          cases done : held.notified with
          | true =>
              refine ⟨?_, length, receivers, now⟩
              intro number post there small
              rcases Nat.lt_succ_iff_lt_or_eq.mp small with old | rfl
              · exact announced number post there old
              · rw [if_pos rfl, found] at there
                cases there
                exact done
          | false =>
              refine ⟨?_, ?_, receivers, now⟩
              · intro number post there small
                rcases getElem?_set_cases there with ⟨-, rfl⟩ | ⟨differ, old⟩
                · rfl
                · exact announced number post old (by omega)
              · rw [if_neg (by simp), List.length_set]
                exact length

/-- With one receiver under way, everything becomes quiet before time passes. -/
theorem Lone.settles {own : Nat} {channels : List String} {start deadline : Instant}
    (lone : Lone own channels start deadline lobby) : lobby.Settles := by
  rcases announced_run lobby lobby.posts.length with ⟨announced, length, receivers, now⟩
  have awaits : Awaits own
      (lobby.run ((List.range lobby.posts.length).map .notify)) := by
    refine ⟨?_, ?_⟩
    · intro post mem
      rcases List.mem_iff_getElem?.mp mem with ⟨number, there⟩
      apply announced number post there
      rw [← length]
      exact (List.getElem?_eq_some_iff.mp there).1
    · rw [receivers]
      exact lone.others
  rcases awaits.settles with ⟨moves, owed, quiet, later⟩
  refine ⟨(List.range lobby.posts.length).map .notify ++ moves, ?_, ?_, ?_⟩
  · intro move mem
    rcases List.mem_append.mp mem with first | second
    · rcases List.mem_map.mp first with ⟨number, -, rfl⟩
      rfl
    · exact owed move second
  · rw [run_append]
    exact quiet
  · rw [run_append, later, now]

end Courier.Lobby
