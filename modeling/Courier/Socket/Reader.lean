import Courier.Settings.Socket
import Courier.Socket.Hub

/-!
# Readers

A reader takes messages from the reply channels of all live sockets and delivers them to the queues
of the sockets. In every round it first takes note of how many registrations there have been, then
looks which channels are registered, and then waits: for a message on one of them, or, if there are
none, for some time. A registration after the note cuts the wait short, so that the reader never
waits for long without the channel of a live socket.
-/

namespace Courier.Socket

/-- What a reader is doing. -/
inductive ReaderState where
  | ready
  | listening (heard : Nat)
  | informed (heard : Nat) (channels : List String)
  | idle (heard : Nat) (wakeAt : Instant)
  | receiving (heard : Nat) (waiting : Waiting)
  | pausing (wakeAt : Instant)
  | stopped

/-- A reader. -/
structure Reader where
  settings : SocketSettings
  state : ReaderState := .ready

namespace Reader

/-- How many registrations a reader had heard of when it last looked for channels. -/
def heard? (reader : Reader) : Option Nat :=
  match reader.state with
  | .listening heard | .informed heard _ | .idle heard _ | .receiving heard _ => some heard
  | _ => none

/-- Whether there was a registration of which a reader has not heard. -/
def outdated (reader : Reader) (hub : Hub) : Bool :=
  reader.heard?.any fun heard => heard != hub.directory.registrations

def accept (hub : Hub) (heard : Nat) : Receipt → ReaderState × Hub
  | .received channel message => (.ready, (hub.deliver channel message).2)
  | .nothing => (.ready, hub)
  | .waiting waiting => (.receiving heard waiting, hub)

/-- Begins to wait, now that the channels are known. -/
def beginWait (settings : SocketSettings) (hub : Hub) (now : Instant) (heard : Nat)
    (channels : List String) : ReaderState × Hub :=
  if channels.isEmpty then (.idle heard (now + settings.idleInterval), hub)
  else
    match hub.receive now channels with
    | (.ok receipt, hub) => accept hub heard receipt
    | (.error error, hub) =>
        (.pausing (now + settings.errorBackoff),
          hub.report? (some (.warning ("Reply channel receive failed: " ++ error.message))))

def proceed (reader : Reader) (hub : Hub) (now : Instant) : ReaderState × Hub :=
  match reader.state with
  | .ready => (.listening hub.directory.registrations, hub)
  | .listening heard => (.informed heard hub.directory.channels, hub)
  | .informed heard channels => beginWait reader.settings hub now heard channels
  | .idle _ wakeAt => (if wakeAt ≤ now then .ready else reader.state, hub)
  | .receiving heard waiting =>
      let (receipt, hub) := hub.resume now waiting
      accept hub heard receipt
  | .pausing wakeAt => (if wakeAt ≤ now then .ready else reader.state, hub)
  | .stopped => (.stopped, hub)

def interruptible (reader : Reader) : Bool :=
  match reader.state with
  | .informed _ _ | .idle _ _ | .receiving _ _ => true
  | _ => false

/-- Whether a reader attends to being told to stop: as a round begins and while it waits. -/
def stoppable (reader : Reader) : Bool :=
  match reader.state with
  | .listening _ | .stopped => false
  | _ => true

def step (reader : Reader) (hub : Hub) (now : Instant) (shutdown : Bool) : Reader × Hub :=
  if shutdown && reader.stoppable then ({ reader with state := .stopped }, hub)
  else if reader.interruptible && reader.outdated hub then ({ reader with state := .ready }, hub)
  else
    let (state, hub) := reader.proceed hub now
    ({ reader with state }, hub)

/-- The moment for which a reader waits, if it only waits for time to pass or for others. -/
def wakeAt? (reader : Reader) : Option Instant :=
  match reader.state with
  | .idle _ wakeAt | .pausing wakeAt => some wakeAt
  | .receiving _ waiting => some waiting.deadline
  | _ => none

end Reader

end Courier.Socket
