import Courier.Proofs.Program.Performing
import Courier.Proofs.Registry
import Courier.Worker

/-!
# A worker on its shift

The loop of one worker on a site on which everything else may happen as well: time passes, messages
are sent to any channel, consumers are registered, and at some moment the worker is told to stop.
Sends and receives fail as the backend has it. Each time the worker looks for a message, it goes
through the channels in an order of its own.

The state also holds what a watch would write down: the messages that were accepted by channels, and
the laps of the loop, each with the moment at which its turn began, the message that was received,
what the consumer of the message has performed, and, once the turn has ended, its result.
-/

namespace Courier

/-! ## Looking in any order -/

namespace Turn

/-- Begins a turn, with the channels in some order. -/
def startAlong (order : List String) (settings : WorkerSettings) (site : Site) (now : Instant)
    (tally : Tally) : Turn × Tally × Site :=
  if order.isEmpty then (.ended (.ok .idle), tally, site)
  else
    match site.backend.receive now order settings.block with
    | (.error error, backend) => (.ended (.error error), tally, { site with backend })
    | (.ok receipt, backend) => accept { site with backend } now tally receipt

/-- A turn that waits, with the channels in some order. -/
def along (order : List String) : Turn → Turn
  | .receiving waiting => .receiving { waiting with channels := order }
  | turn => turn

end Turn

namespace Worker

/-- The channels into which a worker looks next. -/
def channels (worker : Worker) (site : Site) : List String :=
  match worker.state with
  | .inTurn (.receiving waiting) => waiting.channels
  | _ => site.registry.channels

/-- Moves a worker on, with the channels in some order. -/
def stepAlong (order : List String) (worker : Worker) (site : Site) (now : Instant)
    (shutdown : Bool) : Worker × Site :=
  match worker.state with
  | .ready =>
      if shutdown then ({ worker with state := .stopped }, site)
      else worker.takeTurn now (Turn.startAlong order worker.settings site now worker.tally)
  | .inTurn turn => worker.takeTurn now ((turn.along order).resume site now worker.tally)
  | .pausing _ | .stopped => worker.step site now shutdown

/-- A worker that keeps to the order of the channels makes its steps. -/
theorem stepAlong_channels (worker : Worker) (site : Site) (now : Instant) (shutdown : Bool) :
    worker.stepAlong (worker.channels site) site now shutdown = worker.step site now shutdown := by
  rcases worker with ⟨settings, tally, state⟩
  cases state with
  | ready => rfl
  | pausing wakeAt => rfl
  | stopped => rfl
  | inTurn turn =>
      cases turn with
      | receiving waiting => rfl
      | consuming wakeAt rest => rfl
      | ended result => rfl

end Worker

/-! ## What is seen of a turn -/

/-- What is seen of a turn that is moved on: the message that it receives, and what the consumer
performs. -/
structure Sight where
  parcel : Option (String × Message) := none
  trace : Trace := []

namespace Turn

/-- What is seen of a message that is handed to the consumer of its channel. -/
def seenOfMessage (site : Site) (now : Instant) (channel : String) (message : Message) : Trace :=
  match site.registry.consumer? channel with
  | none => []
  | some consumer =>
      site.performs now (consumer.consume message ⟨channel, site.backend.label⟩)

def seenOfReceipt (site : Site) (now : Instant) : Receipt → Sight
  | .received channel message => ⟨some (channel, message), seenOfMessage site now channel message⟩
  | .nothing | .waiting _ => {}

def seenOfStart (order : List String) (settings : WorkerSettings) (site : Site) (now : Instant) :
    Sight :=
  if order.isEmpty then {}
  else
    match site.backend.receive now order settings.block with
    | (.error _, _) => {}
    | (.ok receipt, backend) => seenOfReceipt { site with backend } now receipt

def seenOfResume (site : Site) (now : Instant) : Turn → Sight
  | .receiving waiting =>
      let (receipt, backend) := site.backend.resume now waiting
      seenOfReceipt { site with backend } now receipt
  | .consuming wakeAt rest => if wakeAt ≤ now then { trace := site.performs now rest } else {}
  | .ended _ => {}

end Turn

/-- A lap of the loop: when its turn began, the message that was received, and what the consumer has
performed. -/
structure Lap where
  begun : Instant
  parcel : Option (String × Message) := none
  trace : Trace := []

def Lap.see (lap : Lap) (sight : Sight) : Lap :=
  { lap with parcel := lap.parcel.or sight.parcel, trace := lap.trace ++ sight.trace }

/-! ## States and moves -/

/-- A worker on its shift: the time, the site, and whether the worker was told to stop; besides, the
messages that were accepted by channels, the laps that have ended with their results, and the lap
that has not. -/
structure Shift where
  now : Instant
  site : Site
  worker : Worker
  told : Bool := false
  accepted : String → List Message := fun _ => []
  ended : List (Lap × Except ChannelError TurnResult) := []
  lap? : Option Lap := none

namespace Shift

/-- What may happen next. -/
inductive Move where
  | wait (duration : Duration)
  | push (channel : String) (message : Message)
  | announce
  | register (consumer : Consumer) (channels : List String)
  | elsewhere (sessions : SessionStore) (supply : Supply) (groups : Assoc (Dict Instant))
      (log : List LogEntry) (notes : List (String × Message))
  | tell
  | proceed (order : List String)

/-- Writes down what is seen of a lap whose turn has come so far. -/
def note (shift : Shift) (lap : Lap) (sight : Sight) (turn : Turn) : Shift :=
  let accepted := fun channel => shift.accepted channel ++ sight.trace.accepted channel
  match turn with
  | .ended result =>
      { shift with accepted, lap? := none, ended := shift.ended ++ [(lap.see sight, result)] }
  | .receiving _ | .consuming _ _ => { shift with accepted, lap? := some (lap.see sight) }

/-- The worker is moved on. -/
def proceed (shift : Shift) (order : List String) : Shift :=
  let (worker, site) := shift.worker.stepAlong order shift.site shift.now shift.told
  let next := { shift with worker, site }
  match shift.worker.state with
  | .ready =>
      if shift.told then next
      else
        next.note { begun := shift.now }
          (Turn.seenOfStart order shift.worker.settings shift.site shift.now)
          (Turn.startAlong order shift.worker.settings shift.site shift.now shift.worker.tally).1
  | .inTurn turn =>
      next.note (shift.lap?.getD { begun := shift.now })
        ((turn.along order).seenOfResume shift.site shift.now)
        ((turn.along order).resume shift.site shift.now shift.worker.tally).1
  | .pausing _ | .stopped => next

/-- Makes a move. -/
def move (shift : Shift) : Move → Shift
  | .wait duration => { shift with now := shift.now + duration }
  | .push channel message =>
      let (result, backend) := shift.site.backend.push shift.now channel message
      let attempt : Attempt := ⟨channel, message, result⟩
      { shift with
        site := { shift.site with backend }
        accepted := fun other => shift.accepted other ++ (attempt.accepted? other).toList }
  | .announce =>
      { shift with site := { shift.site with backend := shift.site.backend.announce } }
  | .register consumer channels =>
      match shift.site.registry.add consumer.name consumer channels with
      | .ok registry => { shift with site := { shift.site with registry } }
      | .error _ => shift
  | .elsewhere sessions supply groups log notes =>
      let backend :=
        { shift.site.backend with store := { shift.site.backend.store with groups } }
      { shift with site := { shift.site with backend, sessions, supply, log, notes } }
  | .tell => { shift with told := true }
  | .proceed order =>
      if order.Perm (shift.worker.channels shift.site) then shift.proceed order else shift

/-- Makes moves one after another. -/
def run (shift : Shift) (moves : List Move) : Shift := moves.foldl move shift

/-- A worker that has not begun. -/
def start (settings : WorkerSettings) (site : Site) (now : Instant) : Shift :=
  { now, site, worker := { settings } }

/-- A worker with a site of its own, on which nothing has happened before. -/
def alone (settings : WorkerSettings) (store : StoreSettings) (moves : List Move) : Shift :=
  (start settings { backend := .inMemory "local" store } 0).run moves

/-- All laps that have begun. -/
def laps (shift : Shift) : List Lap := shift.ended.map Prod.fst ++ shift.lap?.toList

/-- The messages that the worker has received, with the channels they come from. -/
def received (shift : Shift) : List (String × Message) := shift.laps.filterMap Lap.parcel

/-- The queue of a channel. -/
abbrev queue (shift : Shift) (channel : String) : List Queued :=
  shift.site.backend.store.queue channel

end Shift

end Courier
