import Courier.Data.Assoc
import Courier.Log
import Courier.Socket.Error
import Courier.Socket.Payload
import Courier.Time

/-!
# Directory of live sockets

The directory leads from the name of a reply channel to the queue of frames for its socket. Every
registration opens a queue of its own, so a channel that is registered again has a new queue, and
nothing more is added to the old one. A queue holds a bounded number of frames: what finds it full
is refused rather than waited for.

Entering a channel and announcing it are two steps, so that somebody who waits for registrations may
look in between.
-/

namespace Courier.Socket

/-- The frames that wait for one socket, and whether somebody still takes them. -/
structure Outbox where
  frames : List Frame := []
  attached : Bool := true
  deriving DecidableEq, Repr

/-- Which queue the channel of each live socket leads to, with all queues that were ever opened. -/
structure Directory where
  depth : Nat
  depth_pos : 0 < depth
  owners : Assoc Nat := []
  outboxes : List Outbox := []
  registrations : Nat := 0

/-- What somebody finds who looks for the next frame of a queue. -/
inductive Retrieval where
  | frame (frame : Frame)
  | empty
  | closed
  deriving DecidableEq, Repr

/-- What has become of a message for a socket. -/
inductive Delivery where
  | delivered
  | connectionGone
  | dropped
  deriving DecidableEq, Repr

namespace Directory

/-- An empty directory whose queues hold so many frames, but at least one. -/
def ofDepth (depth : Nat) : Directory where
  depth := max 1 depth
  depth_pos := by omega

instance : Inhabited Directory := ⟨ofDepth 1⟩

/-- Enters a channel with a new queue. -/
def enter (directory : Directory) (sendChannel : String) : Directory :=
  { directory with
    owners := directory.owners.insert sendChannel directory.outboxes.length
    outboxes := directory.outboxes ++ [{}] }

def announce (directory : Directory) : Directory :=
  { directory with registrations := directory.registrations + 1 }

/-- Enters a channel and announces it. The result is the number of its queue. -/
def register (directory : Directory) (sendChannel : String) : Nat × Directory :=
  (directory.outboxes.length, (directory.enter sendChannel).announce)

def registered (directory : Directory) (sendChannel : String) : Bool :=
  directory.owners.has sendChannel

/-- Takes a channel out of the directory. Also tells whether it was there. -/
def unregister (directory : Directory) (sendChannel : String) : Bool × Directory :=
  (directory.registered sendChannel,
    { directory with owners := directory.owners.erase sendChannel })

def channels (directory : Directory) : List String := directory.owners.keys

def size (directory : Directory) : Nat := directory.owners.length

/-- The queue to which a channel leads, if somebody still takes its frames. -/
def outbox? (directory : Directory) (sendChannel : String) : Option (Nat × Outbox) := do
  let number ← directory.owners.find? sendChannel
  let outbox ← directory.outboxes[number]?
  if outbox.attached then some (number, outbox) else none

/-- Puts a frame at the end of the queue of a channel, unless there is none or it is full. -/
def dispatch (directory : Directory) (sendChannel : String) (frame : Frame) :
    Except Error Unit × Directory :=
  match directory.outbox? sendChannel with
  | none => (.error (.connectionGone sendChannel), directory)
  | some (number, outbox) =>
      if directory.depth ≤ outbox.frames.length then
        (.error (.sendQueueFull sendChannel), directory)
      else
        let outbox := { outbox with frames := outbox.frames ++ [frame] }
        (.ok (), { directory with outboxes := directory.outboxes.set number outbox })

/-- Puts frames one after another at the end of the queue of a channel, up to the first refusal. -/
def dispatchAll (directory : Directory) (sendChannel : String) :
    List Frame → Except Error Unit × Directory
  | [] => (.ok (), directory)
  | frame :: rest =>
      match directory.dispatch sendChannel frame with
      | (.ok (), directory) => directory.dispatchAll sendChannel rest
      | (.error error, directory) => (.error error, directory)

/-- Delivers a message to the queue of a channel. Also tells what is to be logged: nothing about a
socket that is gone. -/
def deliver (directory : Directory) (sendChannel : String) (message : Message) :
    Delivery × Option LogEntry × Directory :=
  match Send.framesOf message with
  | .error error =>
      (.dropped, some (.warning ("Dropping malformed outbound message: " ++ error.message)),
        directory)
  | .ok frames =>
      match directory.dispatchAll sendChannel frames with
      | (.ok (), directory) => (.delivered, none, directory)
      | (.error (.connectionGone _), directory) => (.connectionGone, none, directory)
      | (.error error, directory) =>
          (.dropped, some (.warning ("Dropping outbound message: " ++ error.message)), directory)

def owned (directory : Directory) (number : Nat) : Bool :=
  directory.owners.any fun entry => entry.2 == number

/-- Takes the oldest frame of a queue. A queue without frames is closed once no channel leads
to it. -/
def receive (directory : Directory) (number : Nat) : Retrieval × Directory :=
  match directory.outboxes[number]? with
  | some ⟨frame :: rest, attached⟩ =>
      (.frame frame,
        { directory with outboxes := directory.outboxes.set number ⟨rest, attached⟩ })
  | _ => (if directory.owned number then .empty else .closed, directory)

/-- Gives a queue up: its frames are lost, and no more are taken. -/
def detach (directory : Directory) (number : Nat) : Directory :=
  { directory with outboxes := directory.outboxes.set number ⟨[], false⟩ }

end Directory

/-- A wait for the first registration: how many had been heard of, and how long to wait. -/
structure Vigil where
  heard : Nat
  deadline : Instant
  deriving DecidableEq, Repr

/-- Begins to wait for the first registration, unless a channel is registered already. -/
def Directory.vigil? (directory : Directory) (now : Instant) (patience : Duration) :
    Option Vigil :=
  if directory.owners.isEmpty then some ⟨directory.registrations, now + patience⟩ else none

/-- Whether a wait is over: there was a registration, or it has lasted long enough. -/
def Vigil.over (vigil : Vigil) (directory : Directory) (now : Instant) : Bool :=
  vigil.heard != directory.registrations || vigil.deadline ≤ now

end Courier.Socket
