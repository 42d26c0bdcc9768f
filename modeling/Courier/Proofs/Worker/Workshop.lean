import Courier.Proofs.Registry
import Courier.Proofs.Socket.Multiplex
import Courier.Proofs.Strand
import Courier.Worker

/-!
# Many workers at one backend

Any number of workers share a site, each with any number of threads. A thread makes turns, or hands a
message to its consumer directly. In a turn it asks which channels are bound, looks into them, maybe
several times, and looks up the consumer of what it has found: three steps between which others may
register, send and make turns of their own. What a consumer does is left open altogether. Anybody may
push, announce and register at any moment, and a consumer ends with any outcome.

The state also holds what was accepted by channels, the messages that workers have got, as jobs with
how far they have come, the handovers to consumers, and what turns have returned.
-/

namespace Courier

/-! ## States and moves -/

/-- A job is not yet handed to a consumer, is with its consumer, or has ended. -/
inductive JobStage where
  | taken
  | handed
  | ended (result : TurnResult)
  deriving DecidableEq

/-- A message that a worker has got, by a turn or directly. -/
structure Job where
  worker : Nat
  direct : Bool
  channel : String
  message : Message
  stage : JobStage := .taken
  deriving Inhabited

/-- A job's message was handed to a consumer. -/
structure Handover where
  job : Nat
  direct : Bool
  channel : String
  message : Message
  consumer : Consumer

/-- A thread between two steps: it has nothing to do, knows the bound channels, waits for a message,
or works on a job by its number. -/
inductive Thread where
  | idle
  | informed (channels : List String)
  | waiting (waiting : Waiting)
  | working (job : Nat)

/-- The channels to which the look of a thread is confined. -/
def Thread.channels : Thread → List String
  | .informed channels => channels
  | .waiting left => left.channels
  | .idle | .working _ => []

structure Workshop where
  now : Instant
  site : Site
  threads : Nat → Thread := fun _ => .idle
  tallies : Nat → Tally := fun _ => {}
  accepted : List (String × Message) := []
  jobs : List Job := []
  handovers : List Handover := []
  returns : List (Nat × Except ChannelError TurnResult) := []

namespace Workshop

/-- What may happen next. -/
inductive Move where
  | wait (duration : Duration)
  | push (channel : String) (message : Message)
  | announce
  | register (consumer : Consumer) (channels : List String)
  | elsewhere (sessions : SessionStore) (supply : Supply) (groups : Assoc (Dict Instant))
      (log : List LogEntry) (notes : List (String × Message))
  | start (thread : Nat)
  | direct (thread : Nat) (channel : String) (message : Message)
  | look (thread : Nat) (order : List String) (block : Bool)
  | hand (thread : Nat)
  | finish (thread : Nat) (outcome : Outcome)

/-- Whether a move is one of a worker. -/
def Move.ofWorker : Move → Bool
  | .start _ | .direct _ _ _ | .look _ _ _ | .hand _ | .finish _ _ => true
  | .wait _ | .push _ _ | .announce | .register _ _ | .elsewhere _ _ _ _ _ => false

def withThread (workshop : Workshop) (thread : Nat) (next : Thread) : Workshop :=
  { workshop with threads := Function.update workshop.threads thread next }

def withBackend (workshop : Workshop) (backend : Backend) : Workshop :=
  { workshop with site := { workshop.site with backend } }

/-- A turn is over without a job. -/
def leave (workshop : Workshop) (thread : Nat) (result : Except ChannelError TurnResult) :
    Workshop :=
  { workshop.withThread thread .idle with returns := workshop.returns ++ [(thread, result)] }

/-- A thread begins a job. -/
def begin (workshop : Workshop) (thread : Nat) (job : Job) : Workshop :=
  { workshop.withThread thread (.working workshop.jobs.length) with
    jobs := workshop.jobs ++ [job] }

variable (owner : Nat → Nat)

def count (workshop : Workshop) (thread : Nat) (change : Tally → Tally) : Workshop :=
  { workshop with
    tallies := Function.update workshop.tallies (owner thread)
      (change (workshop.tallies (owner thread))) }

/-- A thread goes on with what a receiver brought. -/
def accept (workshop : Workshop) (thread : Nat) : Receipt → Workshop
  | .received channel message =>
      (workshop.count owner thread Tally.countReceived).begin thread
        { worker := owner thread, direct := false, channel, message }
  | .nothing => workshop.leave thread (.ok .idle)
  | .waiting waiting => workshop.withThread thread (.waiting waiting)

/-- A job is over, and with it the turn to which it belongs. -/
def settle (workshop : Workshop) (thread number : Nat) (job : Job) (result : TurnResult) :
    Workshop :=
  { (workshop.count owner thread (Tally.count · result)).withThread thread .idle with
    jobs := workshop.jobs.set number { job with stage := .ended result }
    returns := if job.direct then workshop.returns else workshop.returns ++ [(thread, .ok result)] }

/-- A job is handed to the consumer of its channel; without one it is dropped. -/
def hand (workshop : Workshop) (thread number : Nat) (job : Job) : Workshop :=
  match workshop.site.registry.consumer? job.channel with
  | none =>
      { workshop with
        site := workshop.site.report (.warning "No consumer for channel, dropping message")
      }.settle owner thread number job .dropped
  | some consumer =>
      { workshop with
        jobs := workshop.jobs.set number { job with stage := .handed }
        handovers := workshop.handovers ++
          [⟨number, job.direct, job.channel, job.message, consumer⟩] }

/-- The job on which a thread works, with its number, if it has come as far as some stage. -/
def jobAt? (workshop : Workshop) (thread : Nat) (stage : JobStage) : Option (Nat × Job) :=
  match workshop.threads thread with
  | .working number =>
      match workshop.jobs[number]? with
      | some job => if job.stage = stage then some (number, job) else none
      | none => none
  | _ => none

/-- A thread looks into the channels to which it is confined, in some order. -/
def look (workshop : Workshop) (thread : Nat) (order : List String) (block : Bool) : Workshop :=
  match workshop.threads thread with
  | .informed _ =>
      match workshop.site.backend.receive workshop.now order block with
      | (.error error, backend) => (workshop.withBackend backend).leave thread (.error error)
      | (.ok receipt, backend) => (workshop.withBackend backend).accept owner thread receipt
  | .waiting waiting =>
      let (receipt, backend) :=
        workshop.site.backend.resume workshop.now { waiting with channels := order }
      (workshop.withBackend backend).accept owner thread receipt
  | _ => workshop

/-- A thread that has nothing to do begins a turn. -/
def start (workshop : Workshop) (thread : Nat) : Workshop :=
  match workshop.threads thread with
  | .idle =>
      let channels := workshop.site.registry.channels
      if channels.isEmpty then workshop.leave thread (.ok .idle)
      else workshop.withThread thread (.informed channels)
  | _ => workshop

/-- Makes a move. -/
def move (workshop : Workshop) : Move → Workshop
  | .wait duration => { workshop with now := workshop.now + duration }
  | .push channel message =>
      match workshop.site.backend.push workshop.now channel message with
      | (.ok (), backend) =>
          { workshop.withBackend backend with
            accepted := workshop.accepted ++ [(channel, message)] }
      | (.error _, backend) => workshop.withBackend backend
  | .announce => workshop.withBackend workshop.site.backend.announce
  | .register consumer channels =>
      match workshop.site.registry.add consumer.name consumer channels with
      | .ok registry => { workshop with site := { workshop.site with registry } }
      | .error _ => workshop
  | .elsewhere sessions supply groups log notes =>
      let backend :=
        { workshop.site.backend with store := { workshop.site.backend.store with groups } }
      { workshop with site := { workshop.site with backend, sessions, supply, log, notes } }
  | .start thread => workshop.start thread
  | .direct thread channel message =>
      match workshop.threads thread with
      | .idle => workshop.begin thread { worker := owner thread, direct := true, channel, message }
      | _ => workshop
  | .look thread order block =>
      if order.Perm (workshop.threads thread).channels then workshop.look owner thread order block
      else workshop
  | .hand thread =>
      match workshop.jobAt? thread .taken with
      | some (number, job) => workshop.hand owner thread number job
      | none => workshop
  | .finish thread outcome =>
      match workshop.jobAt? thread .handed with
      | some (number, job) =>
          { workshop with site := workshop.site.reportAll outcome.report?.toList }.settle owner
            thread number job (Turn.resultOf outcome)
      | none => workshop

/-- Makes moves one after another. -/
def run (workshop : Workshop) (moves : List Move) : Workshop :=
  moves.foldl (move owner) workshop

theorem run_append (workshop : Workshop) (first second : List Move) :
    workshop.run owner (first ++ second) = (workshop.run owner first).run owner second :=
  List.foldl_append

/-- A site at whose backend nothing was sent yet, with the calls that are going to fail. -/
def opening (now : Instant) (label : String) (settings : StoreSettings)
    (failingSends failingReceives : List Nat) (registry : Registry Consumer) : Workshop :=
  { now
    site :=
      { backend := { Backend.inMemory label settings with failingSends, failingReceives }
        registry } }

end Workshop

end Courier
