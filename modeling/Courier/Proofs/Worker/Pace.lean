import Courier.Proofs.Worker.Laps
import Mathlib.Data.List.Chain

/-!
# The pace of a worker

The loop of a worker never spins: a lap in which no message is received takes time, namely at least
the least of the three waiting times in the settings. The time is spent in a pause behind the turn
or inside the backend, up to the deadline of the receiver, however often announcements wake it. So
the number of laps is bounded by the number of messages and by the time that has passed.
-/

namespace Courier.Shift

variable {shift before after : Shift} {begun : Instant} {least : Duration}

/-! ## Laps in a row -/

/-- The time that a lap takes at least: none if it has received a message. -/
def spends (least : Duration) (lap : Lap) : Duration := if lap.parcel.isNone then least else 0

/-- Laps that fit in between two moments, one behind the other. -/
inductive Spaced (begun : Instant) (least : Duration) : List Lap → Instant → Prop
  | none {moment : Instant} (le : begun ≤ moment) : Spaced begun least [] moment
  | snoc {past : List Lap} {lap : Lap} {moment : Instant}
      (earlier : Spaced begun least past lap.begun)
      (enough : lap.begun + spends least lap ≤ moment) : Spaced begun least (past ++ [lap]) moment

namespace Spaced

variable {moment later : Instant} {laps past : List Lap}

theorem mono (spaced : Spaced begun least laps moment) (le : moment ≤ later) :
    Spaced begun least laps later := by
  cases spaced with
  | none before => exact .none (before.trans le)
  | snoc earlier enough => exact .snoc earlier (enough.trans le)

theorem of_snoc {lap : Lap} (spaced : Spaced begun least (past ++ [lap]) moment) :
    Spaced begun least past lap.begun ∧ lap.begun + spends least lap ≤ moment := by
  generalize whole : past ++ [lap] = laps at spaced
  cases spaced with
  | none _ => exact absurd whole (List.append_ne_nil_of_right_ne_nil past (List.cons_ne_nil lap []))
  | snoc earlier enough =>
      rcases List.append_inj' whole rfl with ⟨rfl, same⟩
      cases same
      exact ⟨earlier, enough⟩

theorem last (spaced : Spaced begun least laps moment) :
    ∀ lap ∈ laps.getLast?, lap.begun + spends least lap ≤ moment := by
  intro lap isLast
  cases spaced with
  | none _ => cases isLast
  | snoc earlier enough =>
      rw [List.getLast?_concat] at isLast
      cases isLast
      exact enough

/-- Each lap begins when the one in front of it has taken its time. -/
theorem isChain (spaced : Spaced begun least laps moment) :
    laps.IsChain fun lap next => lap.begun + spends least lap ≤ next.begun := by
  induction spaced with
  | none _ => exact .nil
  | snoc earlier _ ih =>
      refine ih.append (.singleton _) ?_
      rintro lap isLast next ⟨⟩
      exact earlier.last lap isLast

/-- The laps without a message take up the time that passes. -/
theorem le_moment (spaced : Spaced begun least laps moment) :
    begun + laps.countP (fun lap => lap.parcel.isNone) * least ≤ moment := by
  induction spaced with
  | none le => simpa using le
  | @snoc past lap moment earlier enough ih =>
      refine le_trans ?_ enough
      rw [List.countP_append, List.countP_singleton, Nat.add_mul, ← Nat.add_assoc, spends]
      refine Nat.add_le_add ih ?_
      split
      · simp
      · simp

end Spaced

/-! ## What each move keeps -/

/-- No waiting time of a shift is less than some duration. -/
structure Allows (shift : Shift) (least : Duration) : Prop where
  idle : least ≤ shift.worker.settings.idleInterval
  error : least ≤ shift.worker.settings.errorBackoff
  receive : least ≤ shift.site.backend.store.settings.receiveTimeout

theorem Allows.effect (allows : before.Allows least) (effect : Effect before after) :
    after.Allows least := by
  have settings := effect.settings
  have store := effect.continues.settings
  refine ⟨?_, ?_, ?_⟩
  · rw [settings]
    exact allows.idle
  · rw [settings]
    exact allows.error
  · rw [store]
    exact allows.receive

/-- The laps fit in before the moment up to which the worker rests: its pause ends or its receiver
has its deadline then. -/
def Fit (begun : Instant) (least : Duration) (shift : Shift) : Prop :=
  match shift.worker.state with
  | .pausing wakeAt => Spaced begun least shift.laps wakeAt
  | .inTurn (.receiving waiting) => Spaced begun least shift.laps waiting.deadline
  | .stopped => ∃ moment, Spaced begun least shift.laps moment
  | .ready | .inTurn _ => Spaced begun least shift.laps shift.now

/-- A shift whose laps take their time. -/
structure Paced (begun : Instant) (least : Duration) (shift : Shift) : Prop where
  started : ∀ lap ∈ shift.laps.getLast?, lap.begun ≤ shift.now
  fit : Fit begun least shift

theorem Paced.spaced (paced : Paced begun least shift) :
    ∃ moment, Spaced begun least shift.laps moment := by
  have fit := paced.fit
  rw [Fit] at fit
  split at fit
  · exact ⟨_, fit⟩
  · exact ⟨_, fit⟩
  · exact fit
  · exact ⟨_, fit⟩
  · exact ⟨_, fit⟩

/-- The laps that have ended. -/
def pastLaps (shift : Shift) : List Lap := shift.ended.map Prod.fst

theorem laps_of_closed (closed : shift.lap? = none) : shift.laps = shift.pastLaps := by
  rw [laps, closed]
  exact List.append_nil _

theorem laps_of_open {lap : Lap} (opened : shift.lap? = some lap) :
    shift.laps = shift.pastLaps ++ [lap] := by
  rw [laps, opened]
  rfl

theorem laps_leaves (shift : Shift) (state : WorkerState) (site : Site) (lap : Lap)
    (result : Except ChannelError TurnResult) :
    ({ shift.withState state with
        site, lap? := none, ended := shift.ended ++ [(lap, result)] } : Shift).laps =
      shift.pastLaps ++ [lap] := by
  simp [laps, pastLaps]

theorem laps_serve (shift : Shift) (lap : Lap) (tally : Tally) (trace : Trace) (site : Site)
    (progress : Site.Progress Outcome) :
    (shift.serve lap tally trace site progress).laps =
      shift.pastLaps ++ [{ lap with trace := lap.trace ++ trace }] := by
  cases progress with
  | paused wakeAt rest => rfl
  | finished outcome => simp [Shift.serve, laps, pastLaps]

theorem started_of_snoc {past : List Lap} {lap : Lap} (isSnoc : shift.laps = past ++ [lap])
    (started : lap.begun ≤ shift.now) : ∀ last ∈ shift.laps.getLast?, last.begun ≤ shift.now := by
  rw [isSnoc, List.getLast?_concat]
  rintro _ ⟨⟩
  exact started

/-- Whoever listens has begun after the laps in front, and still rests for long enough. -/
theorem Paced.listening {lap : Lap} {deadline : Instant} (paced : Paced begun least shift)
    (sound : shift.Sound) (allows : shift.Allows least)
    (listening : Listening shift lap deadline) :
    Spaced begun least shift.pastLaps lap.begun ∧ lap.begun ≤ shift.now ∧
      lap.begun + least ≤ deadline := by
  have fit := paced.fit
  cases listening with
  | begins ready untold =>
      rw [Sound, ready] at sound
      rw [Fit, ready, laps_of_closed sound] at fit
      exact ⟨fit, Nat.le_refl _, Nat.add_le_add_left allows.receive _⟩
  | waits receiving opened =>
      have started := paced.started
      rw [laps_of_open opened, List.getLast?_concat] at started
      rw [Fit, receiving, laps_of_open opened] at fit
      exact ⟨fit.of_snoc.1, started _ rfl, fit.of_snoc.2⟩

/-- A lap with a message has taken all the time that it has to take. -/
theorem paced_serve {lap : Lap} {tally : Tally} {trace : Trace} {site : Site}
    {progress : Site.Progress Outcome} {parcel : String × Message}
    (earlier : Spaced begun least shift.pastLaps lap.begun) (started : lap.begun ≤ shift.now)
    (isParcel : lap.parcel = some parcel) :
    Paced begun least (shift.serve lap tally trace site progress) := by
  have laps := shift.laps_serve lap tally trace site progress
  have now := now_serve shift lap tally trace site progress
  have enough : lap.begun + spends least { lap with trace := lap.trace ++ trace } ≤ shift.now := by
    rw [spends, isParcel]
    exact started
  have spaced : Spaced begun least (shift.serve lap tally trace site progress).laps
      (shift.serve lap tally trace site progress).now := by
    rw [laps, now]
    exact .snoc earlier enough
  refine ⟨started_of_snoc laps (now ▸ started), ?_⟩
  cases progress with
  | paused wakeAt rest => exact spaced
  | finished outcome => exact spaced

theorem Fit.later {now : Instant} {site : Site} {told : Bool} {accepted : String → List Message}
    (fit : Fit begun least shift) (later : shift.now ≤ now) :
    Fit begun least { shift with now, site, told, accepted } := by
  rcases shift with ⟨earlier, site, ⟨settings, tally, state⟩, told, accepted, ended, lap?⟩
  cases state with
  | ready => exact fit.mono later
  | pausing _ | stopped => exact fit
  | inTurn turn =>
      cases turn with
      | receiving _ => exact fit
      | consuming _ _ | ended _ => exact fit.mono later

/-- A turn without a message leaves a pause behind, or has taken its time. -/
theorem Vacant.fit {begun started deadline : Instant} {result : Except ChannelError TurnResult}
    {state : WorkerState} {site : Site} (vacant : Vacant shift deadline result state)
    (allows : shift.Allows least) (earlier : Spaced begun least shift.pastLaps started)
    (isPast : started ≤ shift.now) (enough : started + least ≤ deadline) :
    Fit begun least
      { shift.withState state with
        site, lap? := none, ended := shift.ended ++ [({ begun := started }, result)] } := by
  rw [Fit, laps_leaves]
  cases vacant with
  | idle => exact .snoc earlier (Nat.add_le_add isPast allows.idle)
  | timedOut late => exact .snoc earlier (enough.trans late)
  | failed error => exact .snoc earlier (Nat.add_le_add isPast allows.error)

theorem Paced.effect (paced : Paced begun least before) (sound : before.Sound)
    (allows : before.Allows least) (effect : Effect before after) : Paced begun least after := by
  have fit := paced.fit
  cases effect with
  | outside later kept gets =>
      exact ⟨fun lap isLast => (paced.started lap isLast).trans later, fit.later later⟩
  | stops told free => exact ⟨paced.started, paced.spaced⟩
  | wakes untold pausing due =>
      rw [Fit, pausing] at fit
      exact ⟨paced.started, fit.mono due⟩
  | listens listening bound gets =>
      rcases paced.listening sound allows listening with ⟨earlier, started, enough⟩
      rcases listening.blank with ⟨begun, rfl⟩
      exact ⟨started_of_snoc (laps_of_open rfl) started, .snoc earlier enough⟩
  | leaves listening vacant gets =>
      rcases paced.listening sound allows listening with ⟨earlier, started, enough⟩
      rcases listening.blank with ⟨begun, rfl⟩
      exact ⟨started_of_snoc (laps_leaves ..) started, vacant.fit allows earlier started enough⟩
  | takes listening bound stays taken gets run =>
      rcases paced.listening sound allows listening with ⟨earlier, started, -⟩
      exact paced_serve earlier started rfl
  | works consuming due opened gets run =>
      rcases sound.inHand consuming opened with ⟨channel, message, consumer, isParcel, -⟩
      have started := paced.started
      rw [laps_of_open opened, List.getLast?_concat] at started
      rw [Fit, consuming, laps_of_open opened] at fit
      exact paced_serve fit.of_snoc.1 (started _ rfl) isParcel

/-- What holds at every moment of a shift whose waiting times are not less than some duration. -/
structure Steady (begun : Instant) (least : Duration) (shift : Shift) : Prop where
  sound : shift.Sound
  allows : shift.Allows least
  paced : Paced begun least shift

theorem steady_start {settings : WorkerSettings} {site : Site}
    (allows : (start settings site begun).Allows least) :
    Steady begun least (start settings site begun) :=
  ⟨rfl, allows, nofun, .none (Nat.le_refl begun)⟩

theorem Steady.move (steady : Steady begun least shift) (move : Move) :
    Steady begun least (shift.move move) := by
  have effect := effect_move steady.sound move
  exact ⟨steady.sound.effect effect, steady.allows.effect effect,
    steady.paced.effect steady.sound steady.allows effect⟩

theorem Steady.run (steady : Steady begun least shift) (moves : List Move) :
    Steady begun least (shift.run moves) := by
  induction moves generalizing shift with
  | nil => exact steady
  | cons first rest ih => exact ih (steady.move first)

/-! ## Counting laps -/

/-- In each lap a message was received, or not. -/
theorem length_laps (shift : Shift) : shift.laps.length =
    shift.received.length + shift.laps.countP fun lap => lap.parcel.isNone := by
  rw [received]
  induction shift.laps with
  | nil => rfl
  | cons lap rest ih =>
      rcases lap with ⟨begun, _ | parcel, trace⟩
      · simp [ih]
        omega
      · simp [ih]
        omega

/-- All laps without a message but the last one have taken their time. -/
theorem Paced.countP_le (paced : Paced begun least shift) (positive : 0 < least) :
    (shift.laps.countP fun lap => lap.parcel.isNone) ≤ (shift.now - begun) / least + 1 := by
  rcases paced.spaced with ⟨moment, spaced⟩
  have started := paced.started
  rcases List.eq_nil_or_concat shift.laps with empty | ⟨past, lap, eq⟩
  · simp [empty]
  · rw [eq, List.concat_eq_append] at spaced started ⊢
    rw [List.getLast?_concat] at started
    have taken := spaced.of_snoc.1.le_moment.trans (started lap rfl)
    rw [List.countP_append]
    refine Nat.add_le_add ?_ (List.countP_le_length)
    rw [Nat.le_div_iff_mul_le positive]
    exact Nat.le_sub_of_add_le' taken

/-! ## Main result -/

/-- A lap without a message takes at least the least of the three waiting times of a worker: the
next one does not begin earlier, nor is the worker ready for it. So there are no more laps than
messages that were received, one for each time that the waiting time fits into the time that has
passed, and the current one. -/
theorem loop_never_spins (settings : WorkerSettings) (site : Site) (begun : Instant)
    (moves : List Move) (idle : 0 < settings.idleInterval) (error : 0 < settings.errorBackoff)
    (receive : 0 < site.backend.store.settings.receiveTimeout) :
    let shift := (start settings site begun).run moves
    let least := min (min settings.idleInterval settings.errorBackoff)
      site.backend.store.settings.receiveTimeout
    (shift.laps.IsChain fun lap next =>
      lap.begun ≤ next.begun ∧ (lap.parcel = none → lap.begun + least ≤ next.begun)) ∧
    (shift.worker.state = .ready → ∀ lap ∈ shift.laps.getLast?,
      lap.parcel = none → lap.begun + least ≤ shift.now) ∧
    shift.laps.length ≤ shift.received.length + (shift.now - begun) / least + 1 := by
  intro shift least
  have allows : (start settings site begun).Allows least :=
    ⟨(min_le_left _ _).trans (min_le_left _ _), (min_le_left _ _).trans (min_le_right _ _),
      min_le_right _ _⟩
  have steady : Steady begun least shift := (steady_start allows).run moves
  have positive : 0 < least := lt_min (lt_min idle error) receive
  refine ⟨?_, ?_, ?_⟩
  · rcases steady.paced.spaced with ⟨moment, spaced⟩
    refine spaced.isChain.imp ?_
    intro lap next follows
    refine ⟨(Nat.le_add_right _ _).trans follows, ?_⟩
    intro noParcel
    rwa [spends, noParcel] at follows
  · intro ready lap isLast noParcel
    have fit := steady.paced.fit
    rw [Fit, ready] at fit
    have enough := fit.last lap isLast
    rwa [spends, noParcel] at enough
  · rw [length_laps, Nat.add_assoc]
    exact Nat.add_le_add_left (steady.paced.countP_le positive) _

/-- A worker that waits for messages of one channel is woken up by a message to another channel, and
begins its next lap when it has waited for as long as it does. -/
def wokenInVain : List Move :=
  [.register ⟨"idle", fun _ _ => .done .succeeded⟩ ["jobs"], .proceed ["jobs"],
    .push "news" .empty, .announce, .proceed ["jobs"], .wait (Duration.ofMillis 1000),
    .proceed ["jobs"], .proceed ["jobs"]]

theorem loop_never_spins_wokenInVain :
    (0 < ({} : WorkerSettings).idleInterval ∧ 0 < ({} : WorkerSettings).errorBackoff ∧
      0 < ({} : StoreSettings).receiveTimeout) ∧
    (alone {} {} wokenInVain).laps.map Lap.begun = [0, Duration.ofMillis 1000] ∧
      (alone {} {} wokenInVain).laps.length ≤ (alone {} {} wokenInVain).received.length +
        (alone {} {} wokenInVain).now / Duration.ofMillis 100 + 1 := by
  have laps : (alone {} {} wokenInVain).laps.map Lap.begun = [0, Duration.ofMillis 1000] := by cbv
  have holds := loop_never_spins {} { backend := .inMemory "local" {} } 0 wokenInVain (by decide)
    (by decide) (by decide)
  exact ⟨⟨by decide, by decide, by decide⟩, laps, holds.2.2⟩

end Courier.Shift
