import Courier.Http.Interface
import Courier.Simulation.Schedule
import Courier.Worker

/-!
# The bench

One backend on which receivers, workers, programs and exchanges with HTTP clients run against a
virtual clock. Beside them there are helpers that do what users of the backend would do: send a
message later, take messages away at regular intervals, or answer requests by hand.
-/

namespace Courier.Simulation

/-- What the tasks of a bench share: the site, the messages that were taken away at intervals and
the requests that were answered by hand, both with the newest first. -/
structure Stage where
  site : Site
  taken : List Message := []
  requested : List Message := []

/-- A reply that is given by hand, after some time. -/
structure HandReply where
  after : Duration
  message : Message

/-- A hand that answers requests: the replies to requests it has not seen, and what it still has to
send to the channel of the last one. -/
structure Hand where
  upcoming : List (List HandReply)
  channel : String := ""
  replies : List HandReply := []
  wakeAt : Instant := 0

/-- A task on a bench. -/
inductive Task where
  | sleeping (wakeAt : Instant)
  | later (delay : Duration) (channel : String) (message : Message)
  | sending (wakeAt : Instant) (channel : String) (message : Message)
  | receiving (receipt : Except ChannelError Receipt)
  | turning (settings : WorkerSettings) (tally : Tally) (turn : Turn)
  | crew (workers : List Worker) (stopAt : Instant)
  | calling (wakeAt : Instant) (rest : Program Outcome)
  | called (outcome : Outcome)
  | taking (interval : Duration) (wakeAt : Instant) (channel : String)
  | answering (hand : Hand)
  | exchanging (exchange : Http.Exchange)

namespace Standing

def awaiting (now wakeAt : Instant) : Standing :=
  if wakeAt ≤ now then .moved else .waiting (some wakeAt)

def awaiting? (now : Instant) : Option Instant → Standing
  | none => .moved
  | some wakeAt => awaiting now wakeAt

/-- How two tasks stand together: they move if one of them does, and end if both do. -/
def join : Standing → Standing → Standing
  | .moved, _ | _, .moved => .moved
  | .ended, right => right
  | left, .ended => left
  | .waiting left, .waiting right => .waiting (Round.earlier left right)

end Standing

def standingOf (worker : Worker) (now stopAt : Instant) : Standing :=
  match worker.state with
  | .ready => .moved
  | .stopped => .ended
  | .pausing wakeAt => .awaiting now (min wakeAt stopAt)
  | .inTurn turn => .awaiting? now turn.wakeAt?

def stepCrew (site : Site) (now stopAt : Instant) :
    List Worker → Standing × List Worker × Site
  | [] => (.ended, [], site)
  | worker :: rest =>
      let (worker, site) := worker.step site now (stopAt ≤ now)
      let (standing, rest, site) := stepCrew site now stopAt rest
      ((standingOf worker now stopAt).join standing, worker :: rest, site)

namespace Stage

/-- Takes the oldest message of a channel, past the counted calls of the backend. -/
def takeFrom (stage : Stage) (now : Instant) (channel : String) : Option Message × Stage :=
  let (found, store) := stage.site.backend.store.take now [channel]
  (found.map Prod.snd,
    { stage with site := { stage.site with backend := { stage.site.backend with store } } })

/-- Puts a message on a channel, past the counted calls of the backend. -/
def putOn (stage : Stage) (now : Instant) (channel : String) (message : Message) : Stage :=
  let (_, store) := stage.site.backend.store.send now channel message
  { stage with site := { stage.site with backend := { stage.site.backend with store } } }

end Stage

namespace Hand

/-- Gives the replies that are due, and then looks for the next request. -/
def step (hand : Hand) (stage : Stage) (now : Instant) : Standing × Hand × Stage :=
  match hand.replies with
  | reply :: rest =>
      if hand.wakeAt ≤ now then
        let wakeAt := now + (rest.head?.map HandReply.after).getD 0
        (.moved, { hand with replies := rest, wakeAt }, stage.putOn now hand.channel reply.message)
      else (.waiting (some hand.wakeAt), hand, stage)
  | [] =>
      match hand.upcoming with
      | [] => (.waiting none, hand, stage)
      | replies :: upcoming =>
          match stage.takeFrom now Http.RequestPayload.channel with
          | (none, stage) => (.waiting none, hand, stage)
          | (some request, stage) =>
              let channel := (request.text? "reply_channel").getD ""
              let wakeAt := now + (replies.head?.map HandReply.after).getD 0
              (.moved, { upcoming, channel, replies, wakeAt },
                { stage with requested := request :: stage.requested })

end Hand

namespace Task

def standingOfReceipt (now : Instant) : Except ChannelError Receipt → Standing
  | .ok (.waiting waiting) => .awaiting now waiting.deadline
  | _ => .ended

def standingOfTurn (now : Instant) (turn : Turn) : Standing :=
  match turn with
  | .ended _ => .ended
  | turn => .awaiting? now turn.wakeAt?

/-- Whether a task has not begun. -/
def isFresh : Task → Bool
  | .later _ _ _ => true
  | _ => false

def dueAt : Task → Instant
  | .sending wakeAt _ _ => wakeAt
  | _ => 0

def step (now : Instant) (stage : Stage) : Task → Standing × Task × Stage
  | .sleeping wakeAt =>
      (if wakeAt ≤ now then .ended else .waiting (some wakeAt), .sleeping wakeAt, stage)
  | .later delay channel message => (.moved, .sending (now + delay) channel message, stage)
  | .sending wakeAt channel message =>
      if wakeAt ≤ now then
        let (_, backend) := stage.site.backend.send now channel message
        (.ended, .sending wakeAt channel message,
          { stage with site := { stage.site with backend } })
      else (.waiting (some wakeAt), .sending wakeAt channel message, stage)
  | .receiving (.ok (.waiting waiting)) =>
      let (receipt, backend) := stage.site.backend.resume now waiting
      (standingOfReceipt now (.ok receipt), .receiving (.ok receipt),
        { stage with site := { stage.site with backend } })
  | .receiving receipt => (.ended, .receiving receipt, stage)
  | .turning settings tally turn =>
      let (turn, tally, site) := turn.resume stage.site now tally
      (standingOfTurn now turn, .turning settings tally turn, { stage with site })
  | .crew workers stopAt =>
      let (standing, workers, site) := stepCrew stage.site now stopAt workers
      (standing, .crew workers stopAt, { stage with site })
  | .calling wakeAt rest =>
      if wakeAt ≤ now then
        match stage.site.run now rest with
        | (.finished outcome, site) => (.ended, .called outcome, { stage with site })
        | (.paused wakeAt rest, site) =>
            (.awaiting now wakeAt, .calling wakeAt rest, { stage with site })
      else (.waiting (some wakeAt), .calling wakeAt rest, stage)
  | .called outcome => (.ended, .called outcome, stage)
  | .taking interval wakeAt channel =>
      if wakeAt ≤ now then
        let (found, stage) := stage.takeFrom now channel
        (.waiting (some (wakeAt + interval)), .taking interval (wakeAt + interval) channel,
          { stage with taken := found.toList ++ stage.taken })
      else (.waiting (some wakeAt), .taking interval wakeAt channel, stage)
  | .answering hand =>
      let (standing, hand, stage) := hand.step stage now
      (standing, .answering hand, stage)
  | .exchanging exchange =>
      let (exchange, site) := exchange.step stage.site now
      let standing :=
        match exchange.reading? with
        | none => .ended
        | some reading => .awaiting? now reading.wakeAt?
      (standing, .exchanging exchange, { stage with site })

end Task

/-- A backend with the tasks that run on it, and the one worker that makes single turns. -/
structure Bench where
  schedule : Schedule Stage Task
  worker : Worker

namespace Bench

def ofSite (site : Site) (settings : WorkerSettings) : Bench :=
  { schedule := { now := 0, shared := { site }, background := [] }, worker := { settings } }

def site (bench : Bench) : Site := bench.schedule.shared.site

def now (bench : Bench) : Instant := bench.schedule.now

def setSite (bench : Bench) (site : Site) : Bench :=
  { bench with
    schedule := { bench.schedule with shared := { bench.schedule.shared with site } } }

def setStore (bench : Bench) (store : Store) : Bench :=
  bench.setSite { bench.site with backend := { bench.site.backend with store } }

def run (bench : Bench) (task : Task) : Task × Bench :=
  let (task, schedule) := Schedule.run Task.step task bench.schedule Schedule.patience
  (task, { bench with schedule })

def spawn (bench : Bench) (task : Task) : Bench :=
  { bench with
    schedule := { bench.schedule with background := bench.schedule.background ++ [task] } }

/-- Lets the tasks in the background do what they can do without letting time pass. -/
def settle (bench : Bench) : Bench :=
  { bench with schedule := bench.schedule.settle Task.step Schedule.patience }

/-- Moves the clock in one jump. Tasks in the background that had not begun begin after the jump;
those that are due by then get their turn when the task in front next waits, the earliest first. -/
def advance (bench : Bench) (duration : Duration) : Bench :=
  let (fresh, begun) := bench.schedule.background.partition Task.isFresh
  let jumped : Schedule Stage Task :=
    { bench.schedule with now := bench.now + duration, background := fresh }
  let settled := jumped.settle Task.step Schedule.patience
  let inOrder := begun.mergeSort fun left right => left.dueAt ≤ right.dueAt
  { bench with schedule := { settled with background := inOrder ++ settled.background } }

def wait (bench : Bench) (duration : Duration) : Bench :=
  (bench.run (.sleeping (bench.now + duration))).2

def call (bench : Bench) (program : Program Outcome) : Outcome × Bench :=
  match bench.run (.calling bench.now program) with
  | (.called outcome, bench) => (outcome, bench)
  | (_, bench) => (.succeeded, bench)

/-- Puts messages on a channel, past the counted calls of the backend. -/
def putAll (bench : Bench) (channel : String) (messages : List Message) : Bench :=
  let stage := messages.foldl (fun stage message => stage.putOn bench.now channel message)
    bench.schedule.shared
  { bench with schedule := { bench.schedule with shared := stage } }

/-- The messages that are left on a channel, oldest first. -/
def left (bench : Bench) (channel : String) : List Message :=
  bench.site.backend.store.live bench.now channel

/-- The messages that were taken away at intervals, oldest first. -/
def taken (bench : Bench) : List Message := bench.schedule.shared.taken.reverse

/-- The requests that were answered by hand, oldest first. -/
def requested (bench : Bench) : List Message := bench.schedule.shared.requested.reverse

def send (bench : Bench) (channel : String) (message : Message) :
    Except ChannelError Unit × Bench :=
  let (result, backend) := bench.site.backend.send bench.now channel message
  (result, bench.setSite { bench.site with backend })

/-- Receives from channels, waiting if allowed to. -/
def receive (bench : Bench) (channels : List String) (block : Bool) :
    Except ChannelError (Option (String × Message)) × Bench :=
  let (receipt, backend) := bench.site.backend.receive bench.now channels block
  let bench := bench.setSite { bench.site with backend }
  match bench.run (.receiving receipt) with
  | (.receiving (.ok (.received channel message)), bench) => (.ok (some (channel, message)), bench)
  | (.receiving (.error error), bench) => (.error error, bench)
  | (_, bench) => (.ok none, bench)

/-- Receives without waiting until nothing is left, at most `fuel` messages. -/
def drain (bench : Bench) (channels : List String) :
    (fuel : Nat) → Except ChannelError (List (String × Message)) × Bench
  | 0 => (.ok [], bench)
  | fuel + 1 =>
      match bench.receive channels false with
      | (.error error, bench) => (.error error, bench)
      | (.ok none, bench) => (.ok [], bench)
      | (.ok (some found), bench) =>
          match bench.drain channels fuel with
          | (.ok rest, bench) => (.ok (found :: rest), bench)
          | (.error error, bench) => (.error error, bench)

/-- How many messages are stored, expired ones included. -/
def stored (bench : Bench) : Nat :=
  bench.site.backend.store.queues.foldl (fun total entry => total + entry.2.length) 0

/-- Receives everything from channels without waiting. -/
def drainAll (bench : Bench) (channels : List String) :
    Except ChannelError (List (String × Message)) × Bench :=
  bench.drain channels (bench.stored + 1)

def finishTurn (bench : Bench) (begun : Turn × Tally × Site) :
    Except ChannelError TurnResult × Bench :=
  let (turn, tally, site) := begun
  match (bench.setSite site).run (.turning bench.worker.settings tally turn) with
  | (.turning _ tally (.ended result), bench) =>
      (result, { bench with worker := { bench.worker with tally } })
  | (_, bench) => (.ok .idle, bench)

def turn (bench : Bench) : Except ChannelError TurnResult × Bench :=
  bench.finishTurn
    (Turn.start bench.worker.settings bench.site bench.now bench.worker.tally)

def dispatch (bench : Bench) (channel : String) (message : Message) :
    Except ChannelError TurnResult × Bench :=
  bench.finishTurn (Turn.dispatch bench.site bench.now bench.worker.tally channel message)

/-- Runs the loop of the worker, which is told to stop after some time. -/
def work (bench : Bench) (duration : Duration) : Bench :=
  let worker := { bench.worker with state := .ready }
  match bench.run (.crew [worker] (bench.now + duration)) with
  | (.crew [worker] _, bench) => { bench with worker }
  | (_, bench) => bench

/-- Runs the loops of several new workers, which are told to stop after some time. -/
def workTogether (bench : Bench) (workers : List Worker) (duration : Duration) : Bench :=
  let bench := bench.settle
  (bench.run (.crew workers (bench.now + duration))).2

/-- Makes an exchange with an HTTP client. -/
def exchange (bench : Bench) (settings : HttpSettings) (request : Http.Request) :
    Except Http.Error Http.NativeResponse × Bench :=
  let (exchange, site) := Http.Exchange.start settings bench.site bench.now request
  match (bench.setSite site).run (.exchanging exchange) with
  | (.exchanging exchange, bench) =>
      (exchange.result?.getD (.error (.responseTimeout exchange.replyChannel)), bench)
  | (_, bench) => (.error (.server "no exchange"), bench)

/-- The entries that were logged since the last time, oldest first. -/
def takeLog (bench : Bench) : List LogEntry × Bench :=
  (bench.site.log.reverse, bench.setSite { bench.site with log := [] })

/-- The notes that were made since the last time, oldest first. -/
def takeNotes (bench : Bench) : List (String × Message) × Bench :=
  (bench.site.notes.reverse, bench.setSite { bench.site with notes := [] })

end Bench

end Courier.Simulation
