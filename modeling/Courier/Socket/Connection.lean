import Courier.Log
import Courier.Socket.Error
import Courier.Socket.Payload

/-!
# Connections

A connection stands between one socket and the channel layer. When it opens it registers its reply
channel and announces the socket; then it forwards what the socket receives and writes what is
queued for it, until one of the sides ends it; at last it takes its channel out of the directory and
announces that the socket is gone. A connection that cannot be announced is given up at once.

A connection is told events, one at a time. It says nothing about who registers its channel, sends
its messages and writes its frames, so that the same connection can be run on a live socket or
against surroundings that record what it does.
-/

namespace Courier.Socket

/-- What a connection can do with its surroundings, whose state is of some type: register its
channel, which opens a queue with a number, take it out of the directory, send a message, write a
frame, which may fail, and write to the log. -/
structure Surroundings (σ : Type) where
  register : σ → String → Nat × σ
  unregister : σ → String → σ
  send : σ → String → Message → Except ChannelError Unit × σ
  write : σ → Frame → Bool × σ
  report : σ → LogEntry → σ

/-- What is known about the peer of a socket. -/
structure ConnectionInfo where
  path : String := ""
  queryString : String := ""
  client : Option String := none
  deriving DecidableEq, Repr

/-- How far a connection has come. While it is closing no more frames are taken from its queue. -/
inductive ConnectionPhase where
  | live (closing : Bool)
  | finished (result : Except Error Unit)

/-- A connection: its reply channel, the number of its queue, and how far it has come. -/
structure Connection where
  sendChannel : String
  outbox : Nat
  phase : ConnectionPhase

/-- Something that happens to a live connection: it is to shut down, something comes from its
socket, or something comes from its queue. -/
inductive ConnectionEvent where
  | shutdown
  | received (frame : Frame)
  | faulted (fault : Fault)
  | ended
  | queued (frame : Frame)
  | released
  deriving DecidableEq, Repr

namespace Connection

def shutdownReason : CloseReason := ⟨1001, "Server shutting down"⟩

/-- What is logged about a fault of a socket. One that was closed is nothing to speak of. -/
def faultReport? (fault : Fault) : Option LogEntry :=
  match Error.ofFault fault with
  | .connectionClosed => none
  | error => some (.warning ("Socket error: " ++ error.message))

def takesFrames (connection : Connection) : Bool :=
  match connection.phase with
  | .live closing => !closing
  | .finished _ => false

/-- The result of a connection that has finished. -/
def result? (connection : Connection) : Option (Except Error Unit) :=
  match connection.phase with
  | .live _ => none
  | .finished result => some result

variable {σ : Type} (around : Surroundings σ)

/-- Sends a message; a failure is only logged, after some words. -/
def sendOrReport (state : σ) (channel : String) (message : Message) (words : String) : σ :=
  match around.send state channel message with
  | (.ok (), state) => state
  | (.error error, state) => around.report state (.warning (words ++ error.message))

/-- Announces a frame that was received; control frames are not announced. -/
def forward (connection : Connection) (state : σ) (frame : Frame) : σ :=
  match Receive.ofFrame? connection.sendChannel frame with
  | none => state
  | some payload =>
      sendOrReport around state receiveChannel payload.toMessage "Dropping inbound frame: "

/-- Takes leave: the channel is taken out of the directory, and then the loss is announced. -/
def finish (connection : Connection) (state : σ) : Connection × σ :=
  let payload : Disconnect := ⟨connection.sendChannel⟩
  ({ connection with phase := .finished (.ok ()) },
    sendOrReport around (around.unregister state connection.sendChannel) disconnectChannel
      payload.toMessage "Failed to send disconnect: ")

def start (state : σ) (sendChannel : String) (info : ConnectionInfo) : Connection × σ :=
  let (outbox, state) := around.register state sendChannel
  let payload : Connect := ⟨sendChannel, info.path, info.queryString, info.client⟩
  match around.send state connectChannel payload.toMessage with
  | (.ok (), state) => (⟨sendChannel, outbox, .live false⟩, state)
  | (.error error, state) =>
      let (_, state) := around.write (around.unregister state sendChannel) (.close none)
      (⟨sendChannel, outbox, .finished (.error (.channel error))⟩, state)

/-- Writes a frame from the queue. A close frame is the last one; after a failure it is time to
leave. -/
def writeQueued (connection : Connection) (state : σ) (frame : Frame) : Connection × σ :=
  match around.write state frame with
  | (true, state) => ({ connection with phase := .live frame.isClose }, state)
  | (false, state) => connection.finish around state

/-- Lets something happen to a connection. Nothing happens to one that has finished. -/
def handle (connection : Connection) (state : σ) (event : ConnectionEvent) : Connection × σ :=
  match connection.phase with
  | .finished _ => (connection, state)
  | .live _ =>
      match event with
      | .shutdown =>
          let (_, state) := around.write state (.close (some shutdownReason))
          connection.finish around state
      | .received frame =>
          if frame.isClose then connection.finish around state
          else (connection, connection.forward around state frame)
      | .faulted fault =>
          connection.finish around ((faultReport? fault).elim state (around.report state))
      | .ended | .released => connection.finish around state
      | .queued frame => connection.writeQueued around state frame

end Connection

end Courier.Socket
