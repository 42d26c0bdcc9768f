import Courier.Proofs.Socket.Multiplex
import Courier.Proofs.Worker.Steps

/-!
# The laps of a worker

A lap that has ended is whole: nothing was received in it, or the message was handed to the consumer
of its channel, which ran to its end, and the result of the lap tells how. The tally of the worker
counts its laps. What the worker received from a channel is what left the queue of the channel
alive, in order; nothing else has left it but expired messages.

All of this holds at every moment of every shift.
-/

namespace Courier

open Socket (under under_append under_self under_of_ne)

theorem Program.Run.trans {α : Type} {program between after : Program α} {first second : Trace}
    (early : Program.Run program first between) (late : Program.Run between second after) :
    Program.Run program (first ++ second) after := by
  induction early with
  | stop program => exact late
  | act answer _ ih => exact .act answer (ih late)

namespace Shift

variable {shift before after : Shift}

/-! ## What was received -/

/-- The messages that were received in laps that have ended. -/
def settled (shift : Shift) : List (String × Message) :=
  (shift.ended.map Prod.fst).filterMap Lap.parcel

theorem received_eq (shift : Shift) :
    shift.received = shift.settled ++ shift.lap?.toList.filterMap Lap.parcel := by
  rw [received, laps, List.filterMap_append, settled]

theorem received_of_closed (closed : shift.lap? = none) : shift.received = shift.settled := by
  rw [received_eq, closed]
  exact List.append_nil _

theorem received_listens (state : WorkerState) (site : Site) (begun : Instant) :
    ({ shift.withState state with site, lap? := some { begun } } : Shift).received =
      shift.settled := by
  rw [received_eq]
  exact List.append_nil _

theorem received_leaves (state : WorkerState) (site : Site) (begun : Instant)
    (result : Except ChannelError TurnResult) :
    ({ shift.withState state with
        site, lap? := none, ended := shift.ended ++ [({ begun }, result)] } : Shift).received =
      shift.settled := by
  rw [received_of_closed rfl]
  simp [settled]

/-- A lap whose turn is to receive is blank but for the moment at which it began. -/
theorem Listening.blank {lap : Lap} {deadline : Instant}
    (listening : Listening shift lap deadline) : ∃ begun, lap = { begun } := by
  cases listening with
  | begins => exact ⟨_, rfl⟩
  | waits => exact ⟨_, rfl⟩

theorem Listening.received {lap : Lap} {deadline : Instant} (sound : shift.Sound)
    (listening : Listening shift lap deadline) : shift.received = shift.settled := by
  cases listening with
  | begins ready _ =>
      rw [Sound, ready] at sound
      exact received_of_closed sound
  | waits _ opened =>
      rw [received_eq, opened]
      exact List.append_nil _

/-! ## Consumers that go on -/

section Serve

variable (shift : Shift) (lap : Lap) (tally : Tally) (trace : Trace) (site : Site)
  (progress : Site.Progress Outcome)

theorem received_serve :
    (shift.serve lap tally trace site progress).received =
      shift.settled ++ lap.parcel.toList := by
  cases progress with
  | paused wakeAt rest =>
      rw [received_eq]
      rcases lap with ⟨begun, _ | parcel, done⟩
      · rfl
      · rfl
  | finished outcome =>
      rw [received_of_closed rfl]
      rcases lap with ⟨begun, _ | parcel, done⟩
      · simp [serve, settled]
      · simp [serve, settled]

theorem accepted_serve (channel : String) :
    (shift.serve lap tally trace site progress).accepted channel =
      shift.accepted channel ++ trace.accepted channel := by
  cases progress with
  | paused wakeAt rest => rfl
  | finished outcome => rfl

theorem told_serve : (shift.serve lap tally trace site progress).told = shift.told := by
  cases progress with
  | paused wakeAt rest => rfl
  | finished outcome => rfl

theorem now_serve : (shift.serve lap tally trace site progress).now = shift.now := by
  cases progress with
  | paused wakeAt rest => rfl
  | finished outcome => rfl

theorem settings_serve :
    (shift.serve lap tally trace site progress).worker.settings = shift.worker.settings := by
  cases progress with
  | paused wakeAt rest => rfl
  | finished outcome => rfl

theorem backend_serve :
    (shift.serve lap tally trace site progress).site.backend = site.backend := by
  cases progress with
  | paused wakeAt rest => rfl
  | finished outcome => exact Site.backend_reportAll site _

theorem registry_serve :
    (shift.serve lap tally trace site progress).site.registry = site.registry := by
  cases progress with
  | paused wakeAt rest => rfl
  | finished outcome => exact Site.registry_reportAll site _

end Serve

theorem continues_serve {first : Site} {site : Site} (continues : first.Continues site)
    (shift : Shift) (lap : Lap) (tally : Tally) (trace : Trace)
    (progress : Site.Progress Outcome) :
    first.Continues (shift.serve lap tally trace site progress).site := by
  refine continues.trans (.of_registry (registry_serve ..) ?_ ?_)
  · rw [backend_serve]
  · rw [backend_serve]

namespace Effect

/-! ## What stays -/

theorem continues (effect : Effect before after) : before.site.Continues after.site := by
  cases effect with
  | outside _ _ gets => exact gets.continues
  | stops | wakes => exact .refl _
  | listens _ _ gets => exact gets.continues
  | leaves _ _ gets => exact gets.continues
  | takes _ _ continues _ gets _ => exact continues_serve (continues.trans gets.continues) ..
  | works _ _ _ gets _ => exact continues_serve gets.continues ..

theorem settings (effect : Effect before after) :
    after.worker.settings = before.worker.settings := by
  cases effect with
  | outside | stops | wakes | listens | leaves => rfl
  | takes | works => exact settings_serve ..

theorem told (effect : Effect before after) (told : before.told = true) : after.told = true := by
  cases effect with
  | outside _ kept _ => exact kept told
  | stops | wakes | listens | leaves => exact told
  | takes | works => exact (told_serve ..).trans told

/-! ## Soundness -/

end Effect

theorem InHand.continues {site later : Site} {lap : Lap} {rest : Program Outcome}
    (inHand : InHand site lap rest) (continues : site.Continues later) : InHand later lap rest := by
  rcases inHand with ⟨channel, message, consumer, isParcel, bound, run⟩
  refine ⟨channel, message, consumer, isParcel, continues.registry channel consumer bound, ?_⟩
  rw [continues.label]
  exact run

theorem InHand.goesOn {site : Site} {lap : Lap} {rest later : Program Outcome} {trace : Trace}
    (inHand : InHand site lap rest) (run : Program.Run rest trace later) :
    InHand site { lap with trace := lap.trace ++ trace } later := by
  rcases inHand with ⟨channel, message, consumer, isParcel, bound, sofar⟩
  exact ⟨channel, message, consumer, isParcel, bound, sofar.trans run⟩

/-- A message that has just been received is in hand. -/
theorem Listening.inHand {lap : Lap} {deadline : Instant} {channel : String} {message : Message}
    {consumer : Consumer} {site : Site} {trace : Trace} {rest : Program Outcome}
    (listening : Listening shift lap deadline)
    (bound : shift.site.registry.consumer? channel = some consumer)
    (continues : shift.site.Continues site)
    (run : Program.Run (consumer.consume message ⟨channel, shift.site.backend.label⟩) trace rest) :
    InHand site { lap with parcel := some (channel, message), trace := lap.trace ++ trace }
      rest := by
  rcases listening.blank with ⟨begun, rfl⟩
  refine InHand.continues ?_ continues
  exact ⟨channel, message, consumer, rfl, bound, run⟩

/-- The message with which a consumer is busy is in hand. -/
theorem Sound.inHand {lap : Lap} {wakeAt : Instant} {rest : Program Outcome} (sound : shift.Sound)
    (consuming : shift.worker.state = .inTurn (.consuming wakeAt rest))
    (opened : shift.lap? = some lap) : InHand shift.site lap rest := by
  rw [Sound, consuming] at sound
  rcases sound with ⟨found, isFound, inHand⟩
  cases opened.symm.trans isFound
  exact inHand

/-- A shift whose message is in hand is sound wherever the consumer gets. -/
theorem sound_serve {lap : Lap} {tally : Tally} {trace : Trace} {site : Site}
    {progress : Site.Progress Outcome}
    (inHand : InHand site { lap with trace := lap.trace ++ trace } progress.rest) :
    (shift.serve lap tally trace site progress).Sound := by
  cases progress with
  | paused wakeAt rest => exact ⟨_, rfl, inHand⟩
  | finished outcome => exact rfl

theorem Sound.effect (sound : before.Sound) (effect : Effect before after) : after.Sound := by
  have continues := effect.continues
  cases effect with
  | @outside now site told messages later kept gets =>
      rcases before with ⟨now, site, ⟨settings, tally, state⟩, told, accepted, ended, lap?⟩
      cases state with
      | ready | pausing _ => exact sound
      | stopped => exact ⟨sound.1, kept sound.2⟩
      | inTurn turn =>
          cases turn with
          | ended _ => exact sound
          | consuming _ rest =>
              rcases sound with ⟨lap, opened, inHand⟩
              exact ⟨lap, opened, inHand.continues continues⟩
          | receiving waiting =>
              refine ⟨sound.1, ?_⟩
              intro channel mem
              rcases sound.2 channel mem with ⟨consumer, bound⟩
              exact ⟨consumer, continues.registry channel consumer bound⟩
  | stops told free => exact ⟨free, told⟩
  | wakes untold pausing due =>
      rw [Sound, pausing] at sound
      exact sound
  | listens listening bound gets =>
      refine ⟨?_, ?_⟩
      · rcases listening.blank with ⟨begun, rfl⟩
        exact ⟨begun, rfl⟩
      · intro channel mem
        rcases bound channel mem with ⟨consumer, isBound⟩
        exact ⟨consumer, continues.registry channel consumer isBound⟩
  | leaves listening vacant gets =>
      cases vacant with
      | idle | timedOut | failed => exact rfl
  | takes listening bound stays taken gets run =>
      exact sound_serve (listening.inHand bound (stays.trans gets.continues) run)
  | works consuming due opened gets run =>
      exact sound_serve (((sound.inHand consuming opened).continues gets.continues).goesOn run)

/-! ## Whole laps -/

/-- A lap that has ended is whole: nothing was received, or the message was handed to the consumer
of its channel, which ran to its end, and the result tells how. -/
inductive Whole (site : Site) : Lap × Except ChannelError TurnResult → Prop
  | idle (begun : Instant) : Whole site ({ begun }, .ok .idle)
  | unreceived (begun : Instant) (error : ChannelError) : Whole site ({ begun }, .error error)
  | dispatched {begun : Instant} {channel : String} {message : Message} {consumer : Consumer}
      {trace : Trace} {outcome : Outcome}
      (bound : site.registry.consumer? channel = some consumer)
      (run : Program.Run (consumer.consume message ⟨channel, site.backend.label⟩) trace
        (.done outcome)) :
      Whole site ({ begun, parcel := some (channel, message), trace },
        .ok (Turn.resultOf outcome))

theorem Whole.continues {site later : Site} {entry : Lap × Except ChannelError TurnResult}
    (whole : Whole site entry) (continues : site.Continues later) : Whole later entry := by
  cases whole with
  | idle begun => exact .idle begun
  | unreceived begun error => exact .unreceived begun error
  | dispatched bound run =>
      refine .dispatched (continues.registry _ _ bound) ?_
      rw [continues.label]
      exact run

/-- All laps that have ended are whole. -/
def AllWhole (shift : Shift) : Prop := ∀ entry ∈ shift.ended, Whole shift.site entry

theorem AllWhole.snoc {site : Site} {entry : Lap × Except ChannelError TurnResult}
    (allWhole : shift.AllWhole) (continues : shift.site.Continues site)
    (whole : Whole site entry) : ∀ other ∈ shift.ended ++ [entry], Whole site other := by
  intro other mem
  rcases List.mem_append.mp mem with old | new
  · exact (allWhole other old).continues continues
  · rw [List.mem_singleton.mp new]
    exact whole

theorem allWhole_serve {lap : Lap} {tally : Tally} {trace : Trace} {site : Site}
    {progress : Site.Progress Outcome} (allWhole : shift.AllWhole)
    (continues : shift.site.Continues site)
    (inHand : InHand site { lap with trace := lap.trace ++ trace } progress.rest) :
    (shift.serve lap tally trace site progress).AllWhole := by
  cases progress with
  | paused wakeAt rest => exact fun entry mem => (allWhole entry mem).continues continues
  | finished outcome =>
      rcases lap with ⟨begun, parcel, done⟩
      rcases inHand with ⟨channel, message, consumer, isParcel, bound, run⟩
      cases isParcel
      have later : site.Continues (site.reportAll outcome.report?.toList) :=
        .of_registry (Site.registry_reportAll ..) (by rw [Site.backend_reportAll])
          (by rw [Site.backend_reportAll])
      exact allWhole.snoc (continues.trans later) ((Whole.dispatched bound run).continues later)

theorem AllWhole.effect (allWhole : before.AllWhole) (sound : before.Sound)
    (effect : Effect before after) : after.AllWhole := by
  have continues := effect.continues
  cases effect with
  | outside | stops | wakes | listens =>
      exact fun entry mem => (allWhole entry mem).continues continues
  | leaves listening vacant gets =>
      apply allWhole.snoc continues
      rcases listening.blank with ⟨begun, rfl⟩
      cases vacant with
      | idle | timedOut => exact .idle begun
      | failed error => exact .unreceived begun error
  | takes listening bound stays taken gets run =>
      have goesOn := stays.trans gets.continues
      exact allWhole_serve allWhole goesOn (listening.inHand bound goesOn run)
  | works consuming due opened gets run =>
      exact allWhole_serve allWhole gets.continues
        (((sound.inHand consuming opened).continues gets.continues).goesOn run)

/-! ## The tally -/

/-- Whether a lap has ended with a result. -/
def endedAs (result : TurnResult) (entry : Lap × Except ChannelError TurnResult) : Bool :=
  match entry.2 with
  | .ok found => found = result
  | .error _ => false

/-- The tally by a number of messages that were received, and by the laps that have ended. -/
def tallyOf (received : Nat) (ended : List (Lap × Except ChannelError TurnResult)) : Tally where
  received
  processed := ended.countP (endedAs .processed)
  failed := ended.countP (endedAs .failed)
  dropped := ended.countP (endedAs .dropped)

/-- The tally counts the laps. -/
def Counted (shift : Shift) : Prop :=
  shift.worker.tally = tallyOf shift.received.length shift.ended

theorem tallyOf_snoc (received : Nat) (ended : List (Lap × Except ChannelError TurnResult))
    (lap : Lap) (result : TurnResult) :
    tallyOf received (ended ++ [(lap, .ok result)]) = (tallyOf received ended).count result := by
  cases result <;> simp [tallyOf, endedAs, Tally.count]

theorem tallyOf_error (received : Nat) (ended : List (Lap × Except ChannelError TurnResult))
    (lap : Lap) (error : ChannelError) :
    tallyOf received (ended ++ [(lap, .error error)]) = tallyOf received ended := by
  simp [tallyOf, endedAs]

theorem counted_serve {lap : Lap} {tally : Tally} {trace : Trace} {site : Site}
    {progress : Site.Progress Outcome}
    (counts : tally = tallyOf (shift.settled ++ lap.parcel.toList).length shift.ended) :
    (shift.serve lap tally trace site progress).Counted := by
  rw [Counted, received_serve]
  cases progress with
  | paused wakeAt rest => exact counts
  | finished outcome =>
      refine Eq.trans ?_ (tallyOf_snoc _ _ _ _).symm
      rw [← counts]
      rfl

theorem Counted.effect (counts : before.Counted) (sound : before.Sound)
    (effect : Effect before after) : after.Counted := by
  cases effect with
  | outside | stops | wakes => exact counts
  | listens listening bound gets =>
      rw [Counted, listening.received sound] at counts
      rcases listening.blank with ⟨begun, rfl⟩
      rw [Counted, received_listens]
      exact counts
  | leaves listening vacant gets =>
      rw [Counted, listening.received sound] at counts
      rcases listening.blank with ⟨begun, rfl⟩
      rw [Counted, received_leaves]
      cases vacant with
      | idle | timedOut => exact counts.trans (tallyOf_snoc _ _ _ .idle).symm
      | failed error => exact counts.trans (tallyOf_error _ _ _ error).symm
  | takes listening bound stays taken gets run =>
      apply counted_serve
      rw [Counted, listening.received sound] at counts
      rw [counts, List.length_append]
      rfl
  | @works lap wakeAt rest site trace progress consuming due opened gets run =>
      apply counted_serve
      rw [Counted, received_eq, opened] at counts
      rcases lap with ⟨begun, _ | parcel, done⟩
      · exact counts
      · exact counts

/-! ## The books -/

/-- The books of the channels, from some queues on: what was received is what left them alive. -/
def Booked (queues : String → List Queued) (shift : Shift) : Prop :=
  ∀ channel, ∃ ledger, Books 0 0 shift.now
    ((queues channel).map Queued.message ++ shift.accepted channel) (under channel shift.received)
    ledger (shift.queue channel)

variable {queues : String → List Queued}

/-- Messages come to the queues, and nothing is received. -/
theorem Booked.gets (booked : Booked queues before) {messages : String → List Message}
    (gets : before.site.Gets before.now messages after.site) (later : before.now ≤ after.now)
    (accepted : ∀ channel, after.accepted channel = before.accepted channel ++ messages channel)
    (received : after.received = before.received) : Booked queues after := by
  intro channel
  rcases booked channel with ⟨ledger, books⟩
  rcases (gets.fills channel).books books with ⟨more, kept⟩
  refine ⟨more, ?_⟩
  rw [accepted, received, ← List.append_assoc]
  exact kept.wait later

/-- A message is received and handed to a consumer, which sends messages. -/
theorem Booked.takes (booked : Booked queues before) {channel : String} {message : Message}
    {messages : String → List Message} {between : Site}
    (taken : ∀ other, QueueStep before.now (before.queue other) none
      (if channel = other then some message else none) (between.backend.store.queue other))
    (gets : between.Gets before.now messages after.site) (now : after.now = before.now)
    (accepted : ∀ other, after.accepted other = before.accepted other ++ messages other)
    (received : after.received = before.received ++ [(channel, message)]) :
    Booked queues after := by
  intro other
  rcases booked other with ⟨ledger, books⟩
  rcases books.step (taken other) fun _ _ => Nat.zero_le _ with ⟨between, stepped⟩
  rcases (gets.fills other).books stepped with ⟨more, kept⟩
  refine ⟨more, ?_⟩
  rw [accepted, received, under_append, now]
  rw [Option.map_none, Option.toList_none, List.append_nil, List.append_assoc] at kept
  by_cases same : channel = other
  · subst same
    rw [if_pos rfl] at kept
    rw [under_self]
    exact kept
  · rw [if_neg same] at kept
    rw [under_of_ne same]
    exact kept

theorem gets_serve {first site : Site} {now : Instant} {messages : String → List Message}
    (gets : first.Gets now messages site) (shift : Shift) (lap : Lap) (tally : Tally)
    (trace : Trace) (progress : Site.Progress Outcome) :
    first.Gets now messages (shift.serve lap tally trace site progress).site := by
  refine ⟨continues_serve gets.continues .., ?_⟩
  intro channel
  rw [backend_serve]
  exact gets.fills channel

theorem Booked.effect (booked : Booked queues before) (sound : before.Sound)
    (effect : Effect before after) : Booked queues after := by
  cases effect with
  | outside later kept gets => exact booked.gets gets later (fun _ => rfl) rfl
  | stops | wakes => exact booked
  | listens listening bound gets =>
      rcases listening.blank with ⟨begun, rfl⟩
      refine booked.gets gets (Nat.le_refl _) (fun _ => (List.append_nil _).symm) ?_
      rw [received_listens, listening.received sound]
  | leaves listening vacant gets =>
      rcases listening.blank with ⟨begun, rfl⟩
      refine booked.gets gets (Nat.le_refl _) (fun _ => (List.append_nil _).symm) ?_
      rw [received_leaves, listening.received sound]
  | takes listening bound stays taken gets run =>
      refine booked.takes taken (gets_serve gets ..) (now_serve ..) (fun _ => accepted_serve ..) ?_
      rw [received_serve, listening.received sound]
      rfl
  | @works lap wakeAt rest site trace progress consuming due opened gets run =>
      refine booked.gets (gets_serve gets ..) (Nat.le_of_eq (now_serve ..).symm)
        (fun _ => accepted_serve ..) ?_
      rw [received_serve, received_eq, opened]
      rcases lap with ⟨begun, _ | parcel, done⟩
      · rfl
      · rfl

/-! ## Whole shifts -/

/-- What holds at every moment of a shift that began with some queues. -/
structure Kept (queues : String → List Queued) (shift : Shift) : Prop where
  sound : shift.Sound
  allWhole : shift.AllWhole
  counted : shift.Counted
  booked : Booked queues shift

theorem kept_start (settings : WorkerSettings) (site : Site) (now : Instant) :
    Kept site.backend.store.queue (start settings site now) := by
  refine ⟨rfl, nofun, rfl, ?_⟩
  intro channel
  exact ⟨[], by simp [start, Ledger.entries], rfl, nofun, fun _ _ => Nat.zero_le _⟩

theorem Kept.move (kept : Kept queues shift) (move : Move) : Kept queues (shift.move move) := by
  have effect := effect_move kept.sound move
  exact ⟨kept.sound.effect effect, kept.allWhole.effect kept.sound effect,
    kept.counted.effect kept.sound effect, kept.booked.effect kept.sound effect⟩

theorem Kept.run (kept : Kept queues shift) (moves : List Move) :
    Kept queues (shift.run moves) := by
  induction moves generalizing shift with
  | nil => exact kept
  | cons first rest ih => exact ih (kept.move first)

end Shift

end Courier
