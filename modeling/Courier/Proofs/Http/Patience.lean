import Courier.Proofs.Http.Foresight
import Courier.Proofs.Http.NextReply
import Courier.Proofs.Http.Scheduling
import Courier.Proofs.Simulation.Schedule
import Courier.Simulation.Bench

/-!
# Waiting for a reply

A reader asks the backend again and again, each time for as long as a receiver waits there, and
gives up at its own deadline. On the virtual clock, with any number of messages that arrive in its
channel and in others, it comes to what is foreseen without any regard to how long receivers wait.
So the result, its moment and what is left in the store are the same for all receive timeouts, be
they shorter or longer than the time that the reader has.

The clock makes stops that are not foreseen, at the deadlines of receivers. A round at such a stop
finds the channel silent and leaves the store alone, and the time to the next arrival or to the
deadline of the reader gets shorter by it; this is what `runs_until` is about.
-/

namespace Courier

namespace Store

/-! ## Stores with other receive timeouts -/

/-- A store in which receivers wait for a given time. -/
def withTimeout (store : Store) (receiveTimeout : Duration) : Store :=
  { store with settings := { store.settings with receiveTimeout } }

variable (store : Store) (receiveTimeout : Duration) (now : Instant)

theorem take_withTimeout (order : List String) :
    (store.withTimeout receiveTimeout).take now order =
      ((store.take now order).1, (store.take now order).2.withTimeout receiveTimeout) := by
  induction order generalizing store with
  | nil => rfl
  | cons channel rest ih =>
      have same : (store.withTimeout receiveTimeout).queues = store.queues := rfl
      rw [take, take, same]
      cases store.queues.find? channel with
      | none => exact ih store
      | some queue =>
          dsimp only
          rcases firstLive now queue with ⟨_ | message, left⟩
          · exact ih (store.putBack channel left)
          · rfl

theorem send_withTimeout (channel : String) (message : Message) :
    ((store.withTimeout receiveTimeout).send now channel message).2 =
      (store.send now channel message).2.withTimeout receiveTimeout := by
  have pushed : (store.withTimeout receiveTimeout).push now channel message =
      ((store.push now channel message).1,
        (store.push now channel message).2.withTimeout receiveTimeout) := by
    have sameFull : full (store.withTimeout receiveTimeout).settings = full store.settings := rfl
    have sameQueue : (store.withTimeout receiveTimeout).queue channel = store.queue channel := rfl
    rw [push, push, sameFull, sameQueue]
    dsimp only
    split
    · rfl
    · rfl
  rw [send, send, pushed]
  rcases store.push now channel message with ⟨_ | _, after⟩
  · rfl
  · rfl

end Store

namespace Http

open Simulation (Standing Step Schedule)
open Simulation.Schedule (Drains Sweeps Runs)

/-! ## Readings in a store -/

/-- A backend has a store in which receivers wait for a given time, and no call on it fails. -/
structure Keeps (backend : Backend) (store : Store) (receiveTimeout : Duration) : Prop where
  store : backend.store = store.withTimeout receiveTimeout
  receives : backend.failingReceives = []
  sends : backend.failingSends = []

namespace Reading

/-- The receiver of a reading has waited for as long as it may. -/
def Overdue (now : Instant) : Reading → Prop
  | .asking _ => False
  | .waiting _ receiver => receiver.deadline ≤ now

/-- A reading of a channel that only goes on to wait if the channel is silent. -/
structure Attends (store : Store) (channel : String) (reading : Reading) : Prop where
  listens : reading.Listens channel
  silent : reading.HeardAll store → store.Silent channel

/-- What a reading comes to that has found nothing: it has given up, or waits until something is
announced or a moment comes. -/
inductive Rests (store : Store) (now : Instant) (channel : String) (deadline : Instant) :
    Read → Prop
  | gaveUp (late : deadline ≤ now) :
      Rests store now channel deadline (.failed (.responseTimeout channel))
  | waits {receiver : Waiting} (early : now < deadline)
      (listens : receiver.channels = [channel]) (heard : receiver.heard = store.announcements)
      (patient : now < receiver.deadline) :
      Rests store now channel deadline (.reading (.waiting deadline receiver))

variable {backend : Backend} {store : Store} {receiveTimeout : Duration} {now : Instant}
  {channel : String} {reading : Reading}

theorem rests_accept {deadline : Instant} {receiver : Waiting}
    (listens : receiver.channels = [channel]) (heard : receiver.heard = store.announcements)
    (patient : now < receiver.deadline) :
    Rests store now channel deadline (accept channel now deadline (.waiting receiver)) := by
  rw [accept]
  split
  case isTrue late => exact Rests.gaveUp late
  case isFalse early => exact Rests.waits (Nat.lt_of_not_le early) listens heard patient

theorem step_of_live (keeps : Keeps backend store receiveTimeout)
    (attends : reading.Attends store channel) {message : Message} {others : List Message}
    (alive : store.live now channel = message :: others) :
    ∃ after, reading.step backend now channel = (.message message, after) ∧
      Keeps after (store.take now [channel]).2 receiveTimeout := by
  have found := store.take_withTimeout receiveTimeout now [channel]
  rw [Store.take_of_live_cons alive, ← keeps.store] at found
  cases reading with
  | asking deadline =>
      rw [step, Backend.receive_of_reliable keeps.receives, Store.receive, found]
      exact ⟨_, rfl, rfl, keeps.receives, keeps.sends⟩
  | waiting deadline receiver =>
      have unheard : receiver.heard ≠ backend.store.announcements := by
        intro heard
        rw [keeps.store] at heard
        rw [(attends.silent heard).live] at alive
        cases alive
      rw [step, Backend.resume, Store.resume, if_neg unheard,
        show receiver.channels = [channel] from attends.listens, found]
      exact ⟨_, rfl, rfl, keeps.receives, keeps.sends⟩

theorem step_of_vain (keeps : Keeps backend store receiveTimeout)
    (lasts : 0 < receiveTimeout) (attends : reading.Attends store channel) {looked : Store}
    (vain : store.take now [channel] = (none, looked)) :
    ∃ read after, reading.step backend now channel = (read, after) ∧
      Keeps after looked receiveTimeout ∧
      (Rests looked now channel reading.deadline read ∨
        read = .reading (.asking reading.deadline) ∧ reading.Overdue now) := by
  have nothing := store.take_withTimeout receiveTimeout now [channel]
  rw [vain, ← keeps.store] at nothing
  have same : looked.announcements = store.announcements := by
    have kept := Store.announcements_take store now [channel]
    rw [vain] at kept
    exact kept
  have sameKept : backend.store.announcements = looked.announcements := by
    rw [keeps.store, same]
    rfl
  cases reading with
  | asking deadline =>
      rw [step, Backend.receive_of_reliable keeps.receives, Store.receive, nothing]
      exact ⟨_, _, rfl, ⟨rfl, keeps.receives, keeps.sends⟩,
        Or.inl (rests_accept rfl rfl (Nat.lt_add_of_pos_right lasts))⟩
  | waiting deadline receiver =>
      have listens : receiver.channels = [channel] := attends.listens
      by_cases heard : receiver.heard = backend.store.announcements
      · -- nothing was announced, so the channel is silent and looking changes nothing
        have silent : store.Silent channel := by
          apply attends.silent
          rw [HeardAll, heard, keeps.store]
          rfl
        have unchanged : store = looked := congrArg Prod.snd ((silent.take now).symm.trans vain)
        by_cases overdue : receiver.deadline ≤ now
        · rw [step, Backend.resume, Store.resume, if_pos heard, if_pos overdue, Store.lastLook,
            listens, nothing]
          exact ⟨_, _, rfl, ⟨rfl, keeps.receives, keeps.sends⟩, Or.inr ⟨rfl, overdue⟩⟩
        · rw [step, Backend.resume, Store.resume, if_pos heard, if_neg overdue]
          exact ⟨_, _, rfl, ⟨unchanged ▸ keeps.store, keeps.receives, keeps.sends⟩,
            Or.inl (rests_accept listens (heard.trans sameKept) (Nat.lt_of_not_le overdue))⟩
      · rw [step, Backend.resume, Store.resume, if_neg heard, listens, nothing]
        dsimp only
        split
        case isTrue overdue =>
          exact ⟨_, _, rfl, ⟨rfl, keeps.receives, keeps.sends⟩, Or.inr ⟨rfl, overdue⟩⟩
        case isFalse patient =>
          exact ⟨_, _, rfl, ⟨rfl, keeps.receives, keeps.sends⟩,
            Or.inl (rests_accept rfl rfl (Nat.lt_of_not_le patient))⟩

end Reading

/-! ## Parts of a schedule -/

/-- What takes part in a schedule: a reader, and messages that are to arrive. -/
inductive Part where
  | reader (read : Read)
  | arriving (arrival : Incoming)

namespace Part

/-- How a reader stands: it has read, or moves, or waits for time to pass. -/
def standingOf (now : Instant) : Read → Standing
  | .message _ | .failed _ => .ended
  | .reading reading => Simulation.Standing.awaiting? now reading.wakeAt?

/-- Moves a part on. A message is sent as soon as it is due. -/
def step (channel : String) : Step Backend Part := fun now backend part =>
  match part with
  | .reader (.reading reading) =>
      let (read, backend) := reading.step backend now channel
      (standingOf now read, .reader read, backend)
  | .reader read => (.ended, .reader read, backend)
  | .arriving arrival =>
      if arrival.moment ≤ now then
        (.ended, .arriving arrival, (backend.send now arrival.channel arrival.message).2)
      else (.waiting (some arrival.moment), .arriving arrival, backend)

variable {backend : Backend} {store : Store} {receiveTimeout : Duration} {now : Instant}
  {channel : String} {reading : Reading}

/-! ## The reader -/

theorem drains_of_step {read : Read} {after : Backend}
    (moves : reading.step backend now channel = (read, after))
    (rests : standingOf now read ≠ .moved) (moved : Bool) :
    Drains (step channel) now backend (.reader (.reading reading)) moved
      (moved, standingOf now read, .reader read, after) := by
  apply Drains.halts _ rests
  rw [step, moves]

theorem standingOf_rests {deadline : Instant} {read : Read}
    (rests : Reading.Rests store now channel deadline read) : standingOf now read ≠ .moved := by
  cases rests with
  | gaveUp late => exact nofun
  | @waits receiver early listens heard patient =>
      have later : ¬min deadline receiver.deadline ≤ now :=
        Nat.not_le.mpr (Nat.lt_min.mpr ⟨early, patient⟩)
      rw [standingOf, Reading.wakeAt?, Simulation.Standing.awaiting?, Simulation.Standing.awaiting,
        if_neg later]
      exact nofun

/-- A reader that looks where a message is alive has read it. -/
theorem drains_of_live (keeps : Keeps backend store receiveTimeout)
    (attends : reading.Attends store channel) {message : Message} {others : List Message}
    (alive : store.live now channel = message :: others) :
    ∃ after, Drains (step channel) now backend (.reader (.reading reading)) false
        (false, .ended, .reader (.message message), after) ∧
      Keeps after (store.take now [channel]).2 receiveTimeout := by
  rcases Reading.step_of_live keeps attends alive with ⟨after, moves, kept⟩
  exact ⟨after, drains_of_step moves nofun false, kept⟩

/-- A reader that finds nothing comes to rest; only if its receiver has waited for as long as it
may, the reader has asked again. -/
theorem drains_of_vain (keeps : Keeps backend store receiveTimeout) (lasts : 0 < receiveTimeout)
    (attends : reading.Attends store channel) {looked : Store}
    (vain : store.take now [channel] = (none, looked)) :
    ∃ moved read after, Drains (step channel) now backend (.reader (.reading reading)) false
        (moved, standingOf now read, .reader read, after) ∧
      Keeps after looked receiveTimeout ∧
      Reading.Rests looked now channel reading.deadline read ∧
      (moved = true → reading.Overdue now) := by
  rcases Reading.step_of_vain keeps lasts attends vain with
    ⟨read, after, moves, kept, rests | ⟨asks, overdue⟩⟩
  · exact ⟨false, read, after, drains_of_step moves (standingOf_rests rests) false, kept, rests,
      nofun⟩
  · subst asks
    have silent : looked.Silent channel := by
      have emptied := Store.find?_take_none store now (congrArg Prod.fst vain) List.mem_cons_self
      rw [vain] at emptied
      exact emptied
    have asking : (Reading.asking reading.deadline).Attends looked channel := ⟨trivial, False.elim⟩
    rcases Reading.step_of_vain kept lasts asking (silent.take now) with
      ⟨next, final, asked, keptAgain, rests | ⟨-, impossible⟩⟩
    · refine ⟨true, next, final, ?_, keptAgain, rests, fun _ => overdue⟩
      refine Drains.goesOn ?_ (drains_of_step asked (standingOf_rests rests) true)
      rw [step, moves]
      rfl
    · exact absurd impossible id

/-! ## The arrivals -/

/-- What is due is sent, in order. -/
theorem sweeps_due (keeps : Keeps backend store receiveTimeout) {due : List Incoming}
    (together : ∀ arrival ∈ due, arrival.moment = now) (some : due ≠ []) (round : Simulation.Round)
    (rest : List Part) :
    ∃ after, Keeps after (store.deliver due) receiveTimeout ∧ ∀ result,
      Sweeps (step channel) now after { round with moved := true } rest result →
      Sweeps (step channel) now backend round (due.map .arriving ++ rest) result := by
  induction due generalizing backend store round with
  | nil => exact absurd rfl some
  | cons arrival others ih =>
      have isNow := together arrival List.mem_cons_self
      have sent := Backend.send_of_reliable keeps.sends now arrival.channel arrival.message
      have kept : Keeps (backend.send now arrival.channel arrival.message).2
          (store.send now arrival.channel arrival.message).2 receiveTimeout := by
        rw [sent]
        refine ⟨?_, keeps.receives, keeps.sends⟩
        rw [keeps.store]
        exact store.send_withTimeout receiveTimeout now arrival.channel arrival.message
      have drained : Drains (step channel) now backend (.arriving arrival) false
          (false, .ended, .arriving arrival,
            (backend.send now arrival.channel arrival.message).2) := by
        refine Drains.halts ?_ Standing.noConfusion false
        rw [step, if_pos (Nat.le_of_eq isNow)]
      cases others with
      | nil =>
          refine ⟨_, ?_, fun result swept => Sweeps.ended drained swept⟩
          rw [Store.deliver_cons, isNow]
          exact kept
      | cons next more =>
          rcases ih kept (fun other mem => together other (List.mem_cons_of_mem arrival mem)) nofun
            { round with moved := true } with ⟨after, keptAll, goesOn⟩
          refine ⟨after, ?_, fun result swept => Sweeps.ended drained (goesOn result swept)⟩
          rw [Store.deliver_cons, isNow]
          exact keptAll

/-- What is not due waits, and no later than when it is due something wants to go on. -/
theorem sweeps_later (backend : Backend) (channel : String) {rest : List Incoming}
    (later : ∀ arrival ∈ rest, now < arrival.moment)
    {wakeAt : Instant} (wakesLater : now < wakeAt) (moved : Bool) :
    ∃ moment, Sweeps (step channel) now backend ⟨moved, some wakeAt⟩ (rest.map .arriving)
        (⟨moved, some moment⟩, rest.map .arriving, backend) ∧
      now < moment ∧ moment ≤ wakeAt ∧ ∀ arrival ∈ rest, moment ≤ arrival.moment := by
  induction rest generalizing wakeAt with
  | nil => exact ⟨wakeAt, Sweeps.nil, wakesLater, Nat.le_refl _, nofun⟩
  | cons arrival others ih =>
      have isLater := later arrival List.mem_cons_self
      have drained : Drains (step channel) now backend (.arriving arrival) false
          (false, .waiting (some arrival.moment), .arriving arrival, backend) := by
        refine Drains.halts ?_ Standing.noConfusion false
        rw [step, if_neg (Nat.not_le.mpr isLater)]
      rcases ih (fun other mem => later other (List.mem_cons_of_mem arrival mem))
        (Nat.lt_min.mpr ⟨wakesLater, isLater⟩) with ⟨moment, swept, isNext, le, bounds⟩
      refine ⟨moment, Sweeps.waits drained swept, isNext, le.trans (Nat.min_le_left _ _), ?_⟩
      intro other mem
      rcases List.mem_cons.mp mem with rfl | inOthers
      · exact le.trans (Nat.min_le_right _ _)
      · exact bounds other inOthers

/-! ## Runs of a schedule -/

/-- A reader attends to its channel at the beginning of a round, in a given store. -/
structure Stands (reading : Reading) (backend : Backend) (store : Store) (channel : String)
    (deadline : Instant) (receiveTimeout : Duration) : Prop where
  keeps : Keeps backend store receiveTimeout
  attends : reading.Attends store channel
  deadline : reading.deadline = deadline

variable {deadline : Instant} {arrivals : List Incoming} {looked : Store}
  {holds : Part × Schedule Backend Part → Prop}

theorem Stands.of_waits (deadline : Instant) {receiver : Waiting}
    (kept : Keeps backend looked receiveTimeout) (silent : looked.Silent channel)
    (listens : receiver.channels = [channel]) :
    Stands (.waiting deadline receiver) backend looked channel deadline receiveTimeout :=
  ⟨kept, ⟨listens, fun _ => silent⟩, rfl⟩

theorem standingOf_waits {receiver : Waiting} (early : now < deadline)
    (patient : now < receiver.deadline) :
    standingOf now (.reading (.waiting deadline receiver)) =
      .waiting (some (min deadline receiver.deadline)) :=
  if_neg (Nat.not_le.mpr (Nat.lt_min.mpr ⟨early, patient⟩))

/-- A round in which the reader begins to wait and nothing moves: the clock goes on, and passes
neither the deadline nor the next arrival. -/
theorem runs_of_calm {receiver : Waiting} {after : Backend}
    (drained : Drains (step channel) now backend (.reader (.reading reading)) false
      (false, standingOf now (.reading (.waiting deadline receiver)),
        .reader (.reading (.waiting deadline receiver)), after))
    (early : now < deadline) (patient : now < receiver.deadline)
    (later : ∀ arrival ∈ arrivals, now < arrival.moment)
    (onward : ∀ moment, now < moment → moment ≤ deadline →
      (∀ arrival ∈ arrivals, moment ≤ arrival.moment) →
      Runs (step channel) (.reader (.reading (.waiting deadline receiver)))
        ⟨moment, after, arrivals.map .arriving⟩ holds) :
    Runs (step channel) (.reader (.reading reading))
      ⟨now, backend, arrivals.map .arriving⟩ holds := by
  rw [standingOf_waits early patient] at drained
  rcases sweeps_later after channel later
    (Nat.lt_min.mpr ⟨early, patient⟩) false with ⟨moment, swept, isNext, le, bounds⟩
  refine Runs.jumps drained swept rfl rfl ?_
  rw [Nat.max_eq_right (Nat.le_of_lt isNext)]
  exact onward moment isNext (le.trans (Nat.min_le_left _ _)) bounds

/-- Where a reader looks in vain before its deadline and nothing arrives, the clock goes on. A
reader whose receiver has waited for as long as it may asks again first, in another round. -/
theorem runs_of_vain (lasts : 0 < receiveTimeout)
    (stands : Stands reading backend store channel deadline receiveTimeout)
    (vain : store.take now [channel] = (none, looked)) (silent : looked.Silent channel)
    (early : now < deadline) (later : ∀ arrival ∈ arrivals, now < arrival.moment)
    (onward : ∀ {reading backend moment},
      Stands reading backend looked channel deadline receiveTimeout →
      now < moment → moment ≤ deadline → (∀ arrival ∈ arrivals, moment ≤ arrival.moment) →
      Runs (step channel) (.reader (.reading reading))
        ⟨moment, backend, arrivals.map .arriving⟩ holds) :
    Runs (step channel) (.reader (.reading reading))
      ⟨now, backend, arrivals.map .arriving⟩ holds := by
  rcases drains_of_vain stands.keeps lasts stands.attends vain with
    ⟨moved, read, after, drained, kept, rests, -⟩
  rw [stands.deadline] at rests
  cases rests with
  | gaveUp late => exact absurd early (Nat.not_lt.mpr late)
  | @waits receiver _ listens _ patient =>
      have settled := Stands.of_waits deadline kept silent listens
      cases moved with
      | false => exact runs_of_calm drained early patient later fun _ => onward settled
      | true =>
          rw [standingOf_waits early patient] at drained
          rcases sweeps_later after channel later
            (Nat.lt_min.mpr ⟨early, patient⟩) true with ⟨moment, swept, -⟩
          refine Runs.again drained swept rfl ?_
          rcases drains_of_vain settled.keeps lasts settled.attends (silent.take now) with
            ⟨movedAgain, next, final, drainedAgain, keptAgain, restsAgain, overdue⟩
          cases restsAgain with
          | gaveUp late => exact absurd early (Nat.not_lt.mpr late)
          | waits _ listensAgain _ patientAgain =>
              cases movedAgain with
              | true => exact absurd patient (Nat.not_lt.mpr (overdue rfl))
              | false =>
                  exact runs_of_calm drainedAgain early patientAgain later fun _ =>
                    onward (Stands.of_waits deadline keptAgain silent listensAgain)

/-- Up to the next arrival, or to its deadline, a reader only looks in vain and waits again. -/
theorem runs_until {target : Instant} (lasts : 0 < receiveTimeout) (bounded : target ≤ deadline)
    (stops : target = deadline ∨ ∃ arrival ∈ arrivals, arrival.moment = target)
    (later : ∀ arrival ∈ arrivals, target ≤ arrival.moment) (silent : looked.Silent channel)
    (atTarget : ∀ {reading backend store},
      Stands reading backend store channel deadline receiveTimeout →
      store.take target [channel] = (none, looked) →
      Runs (step channel) (.reader (.reading reading))
        ⟨target, backend, arrivals.map .arriving⟩ holds)
    (le : now ≤ target) (stands : Stands reading backend store channel deadline receiveTimeout)
    (vain : store.take now [channel] = (none, looked)) :
    Runs (step channel) (.reader (.reading reading))
      ⟨now, backend, arrivals.map .arriving⟩ holds := by
  -- the time that is left gets shorter from round to round
  induction left : target - now using Nat.strongRecOn generalizing now reading backend store with
  | _ gap ih =>
      rcases Nat.eq_or_lt_of_le le with rfl | before
      · exact atTarget stands vain
      · refine runs_of_vain lasts stands vain silent (Nat.lt_of_lt_of_le before bounded)
          (fun arrival mem => Nat.lt_of_lt_of_le before (later arrival mem)) ?_
        intro reading backend moment settled isNext inTime bounds
        have notPassed : moment ≤ target := by
          rcases stops with rfl | ⟨arrival, mem, rfl⟩
          · exact inTime
          · exact bounds arrival mem
        have closer : target - moment < gap := left ▸ Nat.sub_lt_sub_left before isNext
        exact ih _ closer notPassed settled (silent.take moment) rfl

/-- What is foreseen has come about: the reader has read, at the moment, and left the store. -/
structure ComesAbout (foreseen : Foreseen) (receiveTimeout : Duration)
    (reached : Part × Schedule Backend Part) : Prop where
  read : reached.1 = .reader foreseen.read
  moment : reached.2.now = foreseen.moment
  store : reached.2.shared.store = foreseen.store.withTimeout receiveTimeout

/-- A reader for whom nothing arrives in time gives up at its deadline. -/
theorem runs_of_late (lasts : 0 < receiveTimeout) (le : now ≤ deadline)
    (stands : Stands reading backend store channel deadline receiveTimeout)
    (empty : store.live now channel = [])
    (late : ∀ arrival ∈ arrivals, deadline ≤ arrival.moment) :
    Runs (step channel) (.reader (.reading reading)) ⟨now, backend, arrivals.map .arriving⟩
      (ComesAbout (foresee store now channel deadline arrivals) receiveTimeout) := by
  rw [foresee_of_late empty late]
  refine runs_until lasts (Nat.le_refl _) (Or.inl rfl) late (Store.silent_of_live_nil empty) ?_ le
    stands (Store.take_of_live_nil empty)
  intro reading backend store stands vain
  rcases drains_of_vain stands.keeps lasts stands.attends vain with
    ⟨moved, read, after, drained, kept, rests, -⟩
  rw [stands.deadline] at rests
  cases rests with
  | waits early => exact absurd early (Nat.lt_irrefl _)
  | gaveUp _ => exact Runs.ended drained ⟨rfl, rfl, kept.store⟩

/-- A reader for whom nothing is there yet waits for the next arrivals, and finds them. -/
theorem runs_of_next {moment : Instant} {due rest : List Incoming} (lasts : 0 < receiveTimeout)
    (expiry : 0 < store.settings.messageExpiry) (le : now ≤ moment) (early : moment < deadline)
    (stands : Stands reading backend store channel deadline receiveTimeout)
    (empty : store.live now channel = []) (some : due ≠ [])
    (together : ∀ arrival ∈ due, arrival.moment = moment)
    (later : ∀ arrival ∈ rest, moment < arrival.moment)
    (onward : ∀ {reading backend},
      Stands reading backend ((store.take now [channel]).2.deliver due) channel deadline
        receiveTimeout →
      Runs (step channel) (.reader (.reading reading)) ⟨moment, backend, rest.map .arriving⟩
        (ComesAbout
          (foresee ((store.take now [channel]).2.deliver due) moment channel deadline rest)
          receiveTimeout)) :
    Runs (step channel) (.reader (.reading reading))
      ⟨now, backend, (due ++ rest).map .arriving⟩
      (ComesAbout (foresee store now channel deadline (due ++ rest)) receiveTimeout) := by
  have silent := Store.silent_of_live_nil empty
  have lasting : 0 < (store.take now [channel]).2.settings.messageExpiry := by
    rw [Store.settings_take]
    exact expiry
  rw [foresee_next empty expiry early together later]
  refine runs_until lasts (Nat.le_of_lt early) (Or.inr ?_) ?_ silent ?_ le stands
    (Store.take_of_live_nil empty)
  · rcases List.exists_mem_of_ne_nil due some with ⟨first, mem⟩
    exact ⟨first, List.mem_append_left rest mem, together first mem⟩
  · intro arrival mem
    rcases List.mem_append.mp mem with inDue | inRest
    · exact Nat.le_of_eq (together arrival inDue).symm
    · exact Nat.le_of_lt (later arrival inRest)
  · intro reading backend store stands vain
    rcases drains_of_vain stands.keeps lasts stands.attends vain with
      ⟨moved, read, after, drained, kept, rests, -⟩
    rw [stands.deadline] at rests
    cases rests with
    | gaveUp late => exact absurd early (Nat.not_lt.mpr late)
    | @waits receiver _ listens heard patient =>
        rw [standingOf_waits early patient] at drained
        rcases sweeps_due kept together some ⟨moved, .some (min deadline receiver.deadline)⟩
          (rest.map .arriving) with ⟨final, keptAll, goesOn⟩
        rcases sweeps_later final channel later
          (Nat.lt_min.mpr ⟨early, patient⟩) true with ⟨next, swept, -⟩
        rw [← List.map_append] at goesOn
        refine Runs.again drained (goesOn _ swept) rfl (onward ⟨keptAll, ⟨listens, ?_⟩, rfl⟩)
        intro unheard
        exact silent.deliver_of_announcements lasting (unheard.symm.trans heard)

/-- Of arrivals in order, those at the first moment come first. -/
theorem exists_due {arrivals : List Incoming} {moment : Instant}
    (sorted : arrivals.Pairwise fun first second => first.moment ≤ second.moment)
    (notBefore : ∀ arrival ∈ arrivals, moment ≤ arrival.moment) :
    ∃ due rest, arrivals = due ++ rest ∧ (∀ arrival ∈ due, arrival.moment = moment) ∧
      ∀ arrival ∈ rest, moment < arrival.moment := by
  induction arrivals with
  | nil => exact ⟨[], [], rfl, nofun, nofun⟩
  | cons arrival others ih =>
      rcases List.pairwise_cons.mp sorted with ⟨isFirst, ordered⟩
      rcases List.forall_mem_cons.mp notBefore with ⟨notEarlier, othersLater⟩
      rcases Nat.eq_or_lt_of_le notEarlier with same | isLater
      · rcases ih ordered othersLater with ⟨due, rest, rfl, together, later⟩
        exact ⟨arrival :: due, rest, rfl, List.forall_mem_cons.mpr ⟨same.symm, together⟩, later⟩
      · refine ⟨[], arrival :: others, rfl, nofun, List.forall_mem_cons.mpr ⟨isLater, ?_⟩⟩
        exact fun other mem => Nat.lt_of_lt_of_le isLater (isFirst other mem)

/-- From every moment on, what is foreseen comes about. -/
theorem runs_as_foreseen (lasts : 0 < receiveTimeout)
    (expiry : 0 < store.settings.messageExpiry) (le : now ≤ deadline)
    (stands : Stands reading backend store channel deadline receiveTimeout)
    (later : ∀ arrival ∈ arrivals, now ≤ arrival.moment)
    (sorted : arrivals.Pairwise fun first second => first.moment ≤ second.moment) :
    Runs (step channel) (.reader (.reading reading)) ⟨now, backend, arrivals.map .arriving⟩
      (ComesAbout (foresee store now channel deadline arrivals) receiveTimeout) := by
  -- what has arrived at a moment leaves fewer arrivals behind
  induction count_eq : arrivals.length using Nat.strongRecOn
    generalizing arrivals now reading backend store with
  | _ count ih =>
      cases empty : store.live now channel with
      | cons message others =>
          rcases drains_of_live stands.keeps stands.attends empty with ⟨after, drained, kept⟩
          rw [foresee_of_live empty]
          exact Runs.ended drained ⟨rfl, rfl, kept.store⟩
      | nil =>
          cases arrivals with
          | nil => exact runs_of_late lasts le stands empty nofun
          | cons first others =>
              rcases List.pairwise_cons.mp sorted with ⟨isFirst, ordered⟩
              by_cases early : first.moment < deadline
              case neg =>
                have late := Nat.le_of_not_lt early
                exact runs_of_late lasts le stands empty (List.forall_mem_cons.mpr
                  ⟨late, fun arrival mem => Nat.le_trans late (isFirst arrival mem)⟩)
              case pos =>
                rcases exists_due ordered isFirst with ⟨due, rest, rfl, together, isLater⟩
                have fewer : rest.length < count := by
                  rw [← count_eq, List.length_cons, List.length_append]
                  omega
                apply runs_of_next lasts expiry (later first List.mem_cons_self) early stands empty
                  (List.cons_ne_nil first due) (List.forall_mem_cons.mpr ⟨rfl, together⟩) isLater
                intro reading backend settled
                refine ih rest.length fewer ?_ (Nat.le_of_lt early) settled
                  (fun arrival mem => Nat.le_of_lt (isLater arrival mem))
                  (List.pairwise_append.mp ordered).2.1 rfl
                rw [Store.settings_deliver, Store.settings_take]
                exact expiry

/-! ## Main result -/

/-- A reader that begins to read from a channel comes to what is foreseen: the first live message of
the channel if there is one, else the first one to arrive before the deadline at its moment, and
else it gives up at the deadline. What is foreseen does not know how long receivers wait, so the
result, its moment and what is left in the store are the same however long they do. -/
theorem receive_timeouts_do_not_matter {backend : Backend} (channel : String) (now : Instant)
    (timeout : Duration) {arrivals : List Incoming} (receives : backend.failingReceives = [])
    (sends : backend.failingSends = [])
    (expiry : 0 < backend.store.settings.messageExpiry)
    (later : ∀ arrival ∈ arrivals, now ≤ arrival.moment)
    (sorted : arrivals.Pairwise fun first second => first.moment ≤ second.moment)
    {receiveTimeout : Duration} (lasts : 0 < receiveTimeout) :
    let start : Schedule Backend Part :=
      { now, background := arrivals.map .arriving,
        shared := { backend with store := backend.store.withTimeout receiveTimeout } }
    Runs (step channel) (.reader (.reading (.asking (now + timeout)))) start
      (ComesAbout (foresee backend.store now channel (now + timeout) arrivals) receiveTimeout) := by
  intro start
  exact runs_as_foreseen lasts expiry (Nat.le_add_right now timeout)
    ⟨⟨rfl, receives, sends⟩, ⟨trivial, False.elim⟩, rfl⟩ later sorted

/-- A message to a channel, behind one to another channel. -/
def lateReply : List Incoming := [⟨4, "other", ⟨[]⟩⟩, ⟨7, "reply", ⟨[("late", .null)]⟩⟩]

theorem receive_timeouts_do_not_matter_lateReply :
    let backend : Backend := .inMemory "local" {}
    0 < backend.store.settings.messageExpiry ∧ (∀ arrival ∈ lateReply, 0 ≤ arrival.moment) ∧
      (lateReply.Pairwise fun first second => first.moment ≤ second.moment) ∧
      ∀ receiveTimeout ∈ [3, 20], 0 < receiveTimeout ∧
        Runs (step "reply") (.reader (.reading (.asking (0 + 10))))
          { now := 0, background := lateReply.map .arriving,
            shared := { backend with store := backend.store.withTimeout receiveTimeout } }
          fun reached =>
            reached.1 = .reader (.message ⟨[("late", .null)]⟩) ∧ reached.2.now = 7 := by
  intro backend
  have later : ∀ arrival ∈ lateReply, 0 ≤ arrival.moment := fun _ _ => Nat.zero_le _
  have sorted : lateReply.Pairwise fun first second => first.moment ≤ second.moment := by
    simp [lateReply]
  refine ⟨by decide, later, sorted, ?_⟩
  intro receiveTimeout mem
  have lasts : 0 < receiveTimeout := by
    rcases List.mem_cons.mp mem with rfl | isLong
    · decide
    · rw [List.mem_singleton.mp isLong]
      decide
  refine ⟨lasts, ?_⟩
  have comes := @receive_timeouts_do_not_matter backend "reply" 0 10 lateReply rfl rfl (by decide)
    later sorted receiveTimeout lasts
  exact comes.mono fun fuel about => ⟨about.read, about.moment⟩

end Part

end Http

end Courier
