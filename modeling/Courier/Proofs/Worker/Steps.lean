import Courier.Proofs.Store.Waiting
import Courier.Proofs.Worker.Shift

/-!
# What a move of a shift does

Whatever a move of a shift does is one of seven effects: something happens outside, the worker stops
or wakes, a turn goes on to wait, a turn ends without a message, a turn receives a message, or a
consumer goes on. Everything about whole shifts is derived from these.

They are the effects on shifts that are *sound*: what is written down of the lap that has not ended
agrees with what the worker does.
-/

namespace Courier.Shift

variable {shift before after : Shift}

/-! ## Sound shifts -/

/-- A lap whose message is with a consumer, which has come as far as some rest of its program. -/
structure InHand (site : Site) (lap : Lap) (rest : Program Outcome) : Prop where
  busy : ∃ channel message consumer, lap.parcel = some (channel, message) ∧
    site.registry.consumer? channel = some consumer ∧
    Program.Run (consumer.consume message ⟨channel, site.backend.label⟩) lap.trace rest

/-- There is a lap that has not ended just where the worker is in a turn, and it tells how far the
turn has come. -/
def Sound (shift : Shift) : Prop :=
  match shift.worker.state with
  | .ready | .pausing _ => shift.lap? = none
  | .stopped => shift.lap? = none ∧ shift.told = true
  | .inTurn (.receiving waiting) => (∃ begun, shift.lap? = some { begun }) ∧
      ∀ channel ∈ waiting.channels, ∃ consumer,
        shift.site.registry.consumer? channel = some consumer
  | .inTurn (.consuming _ rest) => ∃ lap, shift.lap? = some lap ∧ InHand shift.site lap rest
  | .inTurn (.ended _) => False

/-! ## Effects -/

/-- The turn of a lap is to receive up to some deadline: it begins, or it waits already. -/
inductive Listening (shift : Shift) : Lap → Instant → Prop
  | begins (ready : shift.worker.state = .ready) (untold : shift.told = false) :
      Listening shift { begun := shift.now }
        (shift.now + shift.site.backend.store.settings.receiveTimeout)
  | waits {waiting : Waiting} {begun : Instant}
      (receiving : shift.worker.state = .inTurn (.receiving waiting))
      (opened : shift.lap? = some { begun }) : Listening shift { begun } waiting.deadline

/-- A turn that was to receive up to a deadline ends without a message, and the worker goes on. Only
behind the deadline it does so without a pause. -/
inductive Vacant (shift : Shift) (deadline : Instant) :
    Except ChannelError TurnResult → WorkerState → Prop
  | idle : Vacant shift deadline (.ok .idle)
      (.pausing (shift.now + shift.worker.settings.idleInterval))
  | timedOut (late : deadline ≤ shift.now) : Vacant shift deadline (.ok .idle) .ready
  | failed (error : ChannelError) : Vacant shift deadline (.error error)
      (.pausing (shift.now + shift.worker.settings.errorBackoff))

def withState (shift : Shift) (state : WorkerState) : Shift :=
  { shift with worker := { shift.worker with state } }

/-- A consumer has come to its end or to a pause, and has performed something on the way. -/
def serve (shift : Shift) (lap : Lap) (tally : Tally) (trace : Trace) (site : Site)
    (progress : Site.Progress Outcome) : Shift :=
  let accepted := fun channel => shift.accepted channel ++ trace.accepted channel
  let lap := { lap with trace := lap.trace ++ trace }
  match progress with
  | .paused wakeAt rest =>
      { shift with
        site, accepted, lap? := some lap
        worker := { shift.worker with tally, state := .inTurn (.consuming wakeAt rest) } }
  | .finished outcome =>
      { shift with
        accepted, lap? := none, site := site.reportAll outcome.report?.toList
        worker :=
          { shift.worker with tally := tally.count (Turn.resultOf outcome), state := .ready }
        ended := shift.ended ++ [(lap, .ok (Turn.resultOf outcome))] }

inductive Effect (before : Shift) : Shift → Prop
  | outside {now : Instant} {site : Site} {told : Bool} {messages : String → List Message}
      (later : before.now ≤ now) (kept : before.told = true → told = true)
      (gets : before.site.Gets before.now messages site) :
      Effect before
        { before with
          now, site, told
          accepted := fun channel => before.accepted channel ++ messages channel }
  | stops (told : before.told = true) (free : before.lap? = none) :
      Effect before (before.withState .stopped)
  | wakes {wakeAt : Instant} (untold : before.told = false)
      (pausing : before.worker.state = .pausing wakeAt) (due : wakeAt ≤ before.now) :
      Effect before (before.withState .ready)
  | listens {lap : Lap} {waiting : Waiting} {site : Site}
      (listening : Listening before lap waiting.deadline)
      (bound : ∀ channel ∈ waiting.channels, ∃ consumer,
        before.site.registry.consumer? channel = some consumer)
      (gets : before.site.Gets before.now (fun _ => []) site) :
      Effect before
        { before.withState (.inTurn (.receiving waiting)) with site, lap? := some lap }
  | leaves {lap : Lap} {deadline : Instant} {result : Except ChannelError TurnResult}
      {state : WorkerState} {site : Site} (listening : Listening before lap deadline)
      (vacant : Vacant before deadline result state)
      (gets : before.site.Gets before.now (fun _ => []) site) :
      Effect before
        { before.withState state with
          site, lap? := none, ended := before.ended ++ [(lap, result)] }
  | takes {lap : Lap} {deadline : Instant} {channel : String} {message : Message}
      {consumer : Consumer} {between site : Site} {trace : Trace}
      {progress : Site.Progress Outcome} (listening : Listening before lap deadline)
      (bound : before.site.registry.consumer? channel = some consumer)
      (continues : before.site.Continues between)
      (taken : ∀ other, QueueStep before.now (before.queue other) none
        (if channel = other then some message else none) (between.backend.store.queue other))
      (gets : between.Gets before.now (fun other => trace.accepted other) site)
      (run : Program.Run (consumer.consume message ⟨channel, before.site.backend.label⟩) trace
        progress.rest) :
      Effect before
        (before.serve { lap with parcel := some (channel, message) }
          before.worker.tally.countReceived trace site progress)
  | works {lap : Lap} {wakeAt : Instant} {rest : Program Outcome} {site : Site} {trace : Trace}
      {progress : Site.Progress Outcome}
      (consuming : before.worker.state = .inTurn (.consuming wakeAt rest))
      (due : wakeAt ≤ before.now) (opened : before.lap? = some lap)
      (gets : before.site.Gets before.now (fun other => trace.accepted other) site)
      (run : Program.Run rest trace progress.rest) :
      Effect before (before.serve lap before.worker.tally trace site progress)

namespace Effect

/-- Nothing is accepted outside. -/
theorem still {site : Site} {told : Bool} (kept : shift.told = true → told = true)
    (gets : shift.site.Gets shift.now (fun _ => []) site) {now : Instant}
    (later : shift.now ≤ now) : Effect shift { shift with now, site, told } := by
  have effect := outside later kept gets
  simpa using effect

theorem refl (shift : Shift) : Effect shift shift :=
  still id (.still (.refl _) fun _ => rfl) (Nat.le_refl _)

/-! ## What happens outside -/

theorem push (shift : Shift) (channel : String) (message : Message) :
    Effect shift (shift.move (.push channel message)) :=
  outside (Nat.le_refl _) id (shift.site.gets_push shift.now channel message)

theorem register (shift : Shift) (consumer : Consumer) (channels : List String) :
    Effect shift (shift.move (.register consumer channels)) := by
  simp only [move]
  cases added : shift.site.registry.add consumer.name consumer channels with
  | error error => exact .refl shift
  | ok registry =>
      dsimp only
      have continues : shift.site.Continues { shift.site with registry } :=
        ⟨fun _ _ bound => Registry.consumer?_of_add added bound, rfl, rfl⟩
      exact @still shift { shift.site with registry } shift.told id
        (.still continues fun _ => rfl) shift.now (Nat.le_refl _)

end Effect

/-! ## Turns that go on -/

/-- A worker goes on with a turn, and what is seen is written down. -/
def goOn (shift : Shift) (lap : Lap) (sight : Sight) (turn : Turn × Tally × Site) : Shift :=
  let (worker, site) := shift.worker.takeTurn shift.now turn
  { shift with worker, site }.note lap sight turn.1

/-- A consumer that runs serves its lap. -/
theorem goOn_follow (lap : Lap) (sight : Sight) (site : Site) (tally : Tally)
    (program : Program Outcome) :
    shift.goOn lap sight (Turn.follow site shift.now tally program) =
      shift.serve { lap with parcel := lap.parcel.or sight.parcel } tally sight.trace
        (site.run shift.now program).2 (site.run shift.now program).1 := by
  rw [Turn.follow]
  rcases site.run shift.now program with ⟨outcome | ⟨wakeAt, rest⟩, after⟩
  · cases outcome with
    | succeeded => rfl
    | failed error => rfl
    | brokeDown reason => rfl
  · rfl

/-- A turn that ends without a message leaves its lap behind. -/
theorem goOn_vacant (begun : Instant) (result : Except ChannelError TurnResult) (site : Site) :
    shift.goOn { begun } {} (.ended result, shift.worker.tally, site) =
      { shift.withState (shift.worker.afterTurn site shift.now result).1 with
        site := (shift.worker.afterTurn site shift.now result).2
        lap? := none
        ended := shift.ended ++ [({ begun }, result)] } := by
  simp [goOn, Worker.takeTurn, note, Lap.see, withState, Trace.accepted, Trace.attempts]

theorem goOn_receiving (begun : Instant) (waiting : Waiting) (site : Site) :
    shift.goOn { begun } {} (.receiving waiting, shift.worker.tally, site) =
      { shift.withState (.inTurn (.receiving waiting)) with site, lap? := some { begun } } := by
  simp [goOn, Worker.takeTurn, note, Lap.see, withState, Trace.accepted, Trace.attempts]

namespace Effect

variable {begun deadline : Instant} {backend : Backend}

/-- A turn without a message ends, and the worker pauses unless it has waited inside the backend. -/
theorem idle (listening : Listening shift { begun } deadline)
    (ends : deadline ≤ shift.now ∨ shift.worker.pausesWhenIdle shift.site = true)
    (continues : shift.site.Continues { shift.site with backend })
    (queues : ∀ channel, QueueStep shift.now (shift.queue channel) none none
      (backend.store.queue channel)) :
    Effect shift (shift.goOn { begun } {}
      (.ended (.ok .idle), shift.worker.tally, { shift.site with backend })) := by
  have gets : shift.site.Gets shift.now (fun _ => []) { shift.site with backend } :=
    ⟨continues, fun channel => .of_dropped (queues channel)⟩
  have same : shift.worker.pausesWhenIdle { shift.site with backend } =
      shift.worker.pausesWhenIdle shift.site := rfl
  rw [goOn_vacant, Worker.afterTurn, same]
  split
  case isTrue pauses => exact leaves listening .idle gets
  case isFalse goesOn => exact leaves listening (.timedOut (ends.resolve_right goesOn)) gets

/-- A turn that listens goes on with what its receiver brings. -/
theorem accept {order : List String} {receipt : Receipt}
    (listening : Listening shift { begun } deadline)
    (bound : ∀ channel ∈ order, ∃ consumer,
      shift.site.registry.consumer? channel = some consumer)
    (concerns : receipt.Concerns order)
    (continues : shift.site.Continues { shift.site with backend })
    (queues : ∀ channel, QueueStep shift.now (shift.queue channel) none (receipt.from? channel)
      (backend.store.queue channel))
    (ends : receipt = .nothing →
      deadline ≤ shift.now ∨ shift.worker.pausesWhenIdle shift.site = true)
    (waits : ∀ waiting, receipt = .waiting waiting → waiting.deadline = deadline) :
    Effect shift (shift.goOn { begun }
      (Turn.seenOfReceipt { shift.site with backend } shift.now receipt)
      (Turn.accept { shift.site with backend } shift.now shift.worker.tally receipt)) := by
  cases receipt with
  | nothing => exact idle listening (ends rfl) continues queues
  | waiting waiting =>
      cases waits waiting rfl
      have gets : shift.site.Gets shift.now (fun _ => []) { shift.site with backend } :=
        ⟨continues, fun channel => .of_dropped (queues channel)⟩
      rw [Turn.accept, Turn.seenOfReceipt, goOn_receiving]
      refine listens listening ?_ gets
      rw [show waiting.channels = order from concerns]
      exact bound
  | received channel message =>
      rcases bound channel concerns with ⟨consumer, isBound⟩
      have found : ({ shift.site with backend } : Site).registry.consumer? channel =
          some consumer := isBound
      rw [Turn.accept, Turn.seenOfReceipt, Turn.dispatch, Turn.seenOfMessage, found]
      dsimp only
      rw [goOn_follow]
      refine takes listening isBound continues queues (Site.gets_run _ _ _) ?_
      have run := Site.run_performs { shift.site with backend } shift.now
        (consumer.consume message ⟨channel, backend.label⟩)
      rwa [show backend.label = shift.site.backend.label from continues.label] at run ⊢

/-- A worker that knows no channel is idle, and pauses. -/
theorem pausesWhenIdle_of_no_channels (worker : Worker) {site : Site}
    (none : site.registry.channels = []) : worker.pausesWhenIdle site = true := by
  have isEmpty : site.registry.isEmpty = true := by
    rw [Registry.isEmpty, Dict.isEmpty, List.isEmpty_iff]
    exact List.map_eq_nil_iff.mp none
  rw [Worker.pausesWhenIdle, isEmpty, Bool.or_true]

/-- A worker that is ready begins a turn. -/
theorem start {order : List String} (ready : shift.worker.state = .ready)
    (untold : shift.told = false) (perm : order.Perm shift.site.registry.channels) :
    Effect shift (shift.goOn { begun := shift.now }
      (Turn.seenOfStart order shift.worker.settings shift.site shift.now)
      (Turn.startAlong order shift.worker.settings shift.site shift.now shift.worker.tally)) := by
  have listening := Listening.begins ready untold
  have bound : ∀ channel ∈ order, ∃ consumer,
      shift.site.registry.consumer? channel = some consumer := fun channel mem =>
    Registry.mem_channels.mp (perm.mem_iff.mp mem)
  cases order with
  | nil =>
      have pauses := pausesWhenIdle_of_no_channels shift.worker perm.nil_eq.symm
      exact idle listening (Or.inr pauses) (.refl shift.site) fun _ => .refl _ _
  | cons first rest =>
      rw [Turn.startAlong, Turn.seenOfStart]
      simp only [List.isEmpty_cons, Bool.false_eq_true, if_false]
      rcases shift.site.backend.receive_reaches_or_fails shift.now (first :: rest)
        shift.worker.settings.block with reached | ⟨error, failed⟩
      · rw [reached]
        refine accept listening bound (Store.concerns_receive _ _ _ _)
          (.of_registry rfl (Store.settings_receive _ _ _ _) rfl)
          (fun channel => Store.queueStep_receive _ _ channel _ _) ?_
          fun waiting waits => Store.deadline_of_receive waits
        intro nothing
        right
        rw [Worker.pausesWhenIdle]
        cases block : shift.worker.settings.block with
        | false => rfl
        | true =>
            rw [block] at nothing
            exact absurd nothing Store.receive_ne_nothing
      · rw [failed]
        dsimp only
        rw [goOn_vacant]
        exact leaves listening (.failed error)
          (.still (.of_registry rfl rfl rfl) fun _ => rfl)

/-- A worker that waits for a message goes on. -/
theorem resume {order : List String} {waiting : Waiting} (sound : shift.Sound)
    (receiving : shift.worker.state = .inTurn (.receiving waiting))
    (perm : order.Perm waiting.channels) :
    Effect shift (shift.goOn (shift.lap?.getD { begun := shift.now })
      ((Turn.receiving { waiting with channels := order }).seenOfResume shift.site shift.now)
      ((Turn.receiving { waiting with channels := order }).resume shift.site shift.now
        shift.worker.tally)) := by
  rw [Sound, receiving] at sound
  rcases sound with ⟨⟨begun, opened⟩, bound⟩
  have deadlines := Store.deadline_of_resume shift.site.backend.store shift.now
    { waiting with channels := order }
  rw [opened, Option.getD_some]
  exact accept (Listening.waits receiving opened)
    (fun channel mem => bound channel (perm.mem_iff.mp mem))
    (Store.concerns_resume _ _ { waiting with channels := order })
    (.of_registry rfl (Store.settings_resume _ _ _) rfl)
    (fun channel => Store.queueStep_resume _ _ channel _)
    (fun nothing => Or.inl (deadlines.2 nothing)) fun left waits => (deadlines.1 left waits).1

/-- A consumer that has paused long enough goes on. -/
theorem consume {wakeAt : Instant} {rest : Program Outcome} (sound : shift.Sound)
    (consuming : shift.worker.state = .inTurn (.consuming wakeAt rest)) :
    Effect shift (shift.goOn (shift.lap?.getD { begun := shift.now })
      ((Turn.consuming wakeAt rest).seenOfResume shift.site shift.now)
      ((Turn.consuming wakeAt rest).resume shift.site shift.now shift.worker.tally)) := by
  rw [Sound, consuming] at sound
  rcases sound with ⟨lap, opened, ⟨channel, message, consumer, isParcel, -⟩⟩
  rw [opened, Option.getD_some, Turn.seenOfResume, Turn.resume]
  split
  case isTrue due =>
    rw [goOn_follow]
    have same : { lap with parcel := lap.parcel.or none } = lap := by rw [Option.or_none]
    rw [same]
    exact works consuming due opened (Site.gets_run _ _ _) (Site.run_performs _ _ _)
  case isFalse early =>
    have same : shift.goOn lap {} (.consuming wakeAt rest, shift.worker.tally, shift.site) =
        shift := by
      rcases shift with ⟨now, site, ⟨settings, tally, state⟩, told, accepted, ended, lap?⟩
      cases consuming
      cases opened
      simp [goOn, Worker.takeTurn, note, Lap.see, Trace.accepted, Trace.attempts]
    rw [same]
    exact .refl shift

theorem proceed {order : List String} (sound : shift.Sound)
    (perm : order.Perm (shift.worker.channels shift.site)) :
    Effect shift (shift.proceed order) := by
  rcases shift with ⟨now, site, ⟨settings, tally, state⟩, told, accepted, ended, lap?⟩
  cases state with
  | stopped => exact .refl _
  | ready =>
      cases told with
      | true => exact stops rfl sound
      | false => exact start rfl rfl perm
  | pausing wakeAt =>
      simp only [Shift.proceed, Worker.stepAlong, Worker.step]
      cases told with
      | true => exact stops rfl sound
      | false =>
          simp only [Bool.false_eq_true, if_false]
          split
          case isTrue due => exact wakes rfl rfl due
          case isFalse early => exact .refl _
  | inTurn turn =>
      cases turn with
      | receiving waiting => exact resume sound rfl perm
      | consuming wakeAt rest => exact consume sound rfl
      | ended result => exact absurd sound id

end Effect

theorem effect_move (sound : shift.Sound) (move : Move) : Effect shift (shift.move move) := by
  have elapses := @Effect.still shift shift.site shift.told id (.still (.refl _) fun _ => rfl)
  cases move with
  | wait duration => exact elapses (Nat.le_add_right _ _)
  | push channel message => exact .push shift channel message
  | register consumer channels => exact .register shift consumer channels
  | announce =>
      exact @Effect.still shift { shift.site with backend := shift.site.backend.announce }
        shift.told id (.still (.of_registry rfl rfl rfl) fun _ => rfl) shift.now (Nat.le_refl _)
  | elsewhere sessions supply groups log notes =>
      exact @Effect.still shift (shift.move (.elsewhere sessions supply groups log notes)).site
        shift.told id (.still (.of_registry rfl rfl rfl) fun _ => rfl) shift.now (Nat.le_refl _)
  | tell => exact Effect.still (fun _ => rfl) (.still (.refl _) fun _ => rfl) (Nat.le_refl _)
  | proceed order =>
      rw [move]
      split
      case isTrue perm => exact .proceed sound perm
      case isFalse => exact .refl shift

end Courier.Shift
