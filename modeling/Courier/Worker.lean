import Courier.Site
import Courier.Settings.Worker

/-!
# Workers

A worker takes messages from the channels of its backend that have consumers and hands each to its
consumer. A turn takes at most one message and follows it to its end; the loop of a worker makes
turns and pauses in between until it is told to stop. Both are machines that are moved on step by
step, so that several of them can share a site.
-/

namespace Courier

/-- How a turn ended. -/
inductive TurnResult where
  | idle
  | processed
  | failed
  | dropped
  deriving DecidableEq, Repr

/-- What a worker has done so far. The counts have no limit. Counters of sixty-four bits wrap round
and hold the remainders of these by `2 ^ 64`, which balance where these do. -/
structure Tally where
  received : Nat := 0
  processed : Nat := 0
  failed : Nat := 0
  dropped : Nat := 0
  deriving DecidableEq, Repr, Inhabited

namespace Tally

def countReceived (tally : Tally) : Tally := { tally with received := tally.received + 1 }

def count (tally : Tally) : TurnResult → Tally
  | .idle => tally
  | .processed => { tally with processed := tally.processed + 1 }
  | .failed => { tally with failed := tally.failed + 1 }
  | .dropped => { tally with dropped := tally.dropped + 1 }

end Tally

/-- How far a turn has come: it waits for a message, its consumer pauses, or it has ended. -/
inductive Turn where
  | receiving (waiting : Waiting)
  | consuming (wakeAt : Instant) (rest : Program Outcome)
  | ended (result : Except ChannelError TurnResult)

namespace Turn

def resultOf : Outcome → TurnResult
  | .succeeded => .processed
  | _ => .failed

/-- Goes on with the consumer of a turn. -/
def follow (site : Site) (now : Instant) (tally : Tally) (program : Program Outcome) :
    Turn × Tally × Site :=
  match site.run now program with
  | (.paused wakeAt rest, site) => (.consuming wakeAt rest, tally, site)
  | (.finished outcome, site) =>
      let result := resultOf outcome
      (.ended (.ok result), tally.count result, site.reportAll outcome.report?.toList)

/-- Hands a message to the consumer of its channel; without one it is dropped. -/
def dispatch (site : Site) (now : Instant) (tally : Tally) (channel : String)
    (message : Message) : Turn × Tally × Site :=
  match site.registry.consumer? channel with
  | none =>
      (.ended (.ok .dropped), tally.count .dropped,
        site.report (.warning "No consumer for channel, dropping message"))
  | some consumer =>
      follow site now tally (consumer.consume message ⟨channel, site.backend.label⟩)

/-- Goes on with what a receiver brought. -/
def accept (site : Site) (now : Instant) (tally : Tally) : Receipt → Turn × Tally × Site
  | .received channel message => dispatch site now tally.countReceived channel message
  | .nothing => (.ended (.ok .idle), tally, site)
  | .waiting waiting => (.receiving waiting, tally, site)

def start (settings : WorkerSettings) (site : Site) (now : Instant) (tally : Tally) :
    Turn × Tally × Site :=
  let channels := site.registry.channels
  if channels.isEmpty then (.ended (.ok .idle), tally, site)
  else
    match site.backend.receive now channels settings.block with
    | (.error error, backend) => (.ended (.error error), tally, { site with backend })
    | (.ok receipt, backend) => accept { site with backend } now tally receipt

/-- Goes on with a turn. -/
def resume (site : Site) (now : Instant) (tally : Tally) : Turn → Turn × Tally × Site
  | .receiving waiting =>
      let (receipt, backend) := site.backend.resume now waiting
      accept { site with backend } now tally receipt
  | .consuming wakeAt rest =>
      if wakeAt ≤ now then follow site now tally rest
      else (.consuming wakeAt rest, tally, site)
  | .ended result => (.ended result, tally, site)

def wakeAt? : Turn → Option Instant
  | .receiving waiting => some waiting.deadline
  | .consuming wakeAt _ => some wakeAt
  | .ended _ => none

end Turn

/-- What the loop of a worker is doing. -/
inductive WorkerState where
  | ready
  | inTurn (turn : Turn)
  | pausing (wakeAt : Instant)
  | stopped

/-- A worker. -/
structure Worker where
  settings : WorkerSettings
  tally : Tally := {}
  state : WorkerState := .ready

namespace Worker

/-- Whether a worker pauses after an idle turn: it has not waited inside the backend. -/
def pausesWhenIdle (worker : Worker) (site : Site) : Bool :=
  !worker.settings.block || site.registry.isEmpty

def afterTurn (worker : Worker) (site : Site) (now : Instant) :
    Except ChannelError TurnResult → WorkerState × Site
  | .ok .idle =>
      if worker.pausesWhenIdle site then
        (.pausing (now + worker.settings.idleInterval), site)
      else (.ready, site)
  | .ok _ => (.ready, site)
  | .error error =>
      (.pausing (now + worker.settings.errorBackoff),
        site.report (.warning ("Failed to receive from backend: " ++ error.message)))

def takeTurn (worker : Worker) (now : Instant) : Turn × Tally × Site → Worker × Site
  | (.ended result, tally, site) =>
      let (state, site) := worker.afterTurn site now result
      ({ worker with tally, state }, site)
  | (turn, tally, site) => ({ worker with tally, state := .inTurn turn }, site)

/-- Moves a worker on. A worker that is told to stop ends its turn first. -/
def step (worker : Worker) (site : Site) (now : Instant) (shutdown : Bool) : Worker × Site :=
  match worker.state with
  | .ready =>
      if shutdown then ({ worker with state := .stopped }, site)
      else worker.takeTurn now (Turn.start worker.settings site now worker.tally)
  | .inTurn turn => worker.takeTurn now (turn.resume site now worker.tally)
  | .pausing wakeAt =>
      if shutdown then ({ worker with state := .stopped }, site)
      else if wakeAt ≤ now then ({ worker with state := .ready }, site)
      else (worker, site)
  | .stopped => (worker, site)

/-- The moment at which a worker wants to be moved on, if it only waits for time to pass. -/
def wakeAt? (worker : Worker) : Option Instant :=
  match worker.state with
  | .ready => none
  | .inTurn turn => turn.wakeAt?
  | .pausing wakeAt => some wakeAt
  | .stopped => none

end Worker

end Courier
