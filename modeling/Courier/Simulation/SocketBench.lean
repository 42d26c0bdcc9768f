import Courier.Simulation.Bench
import Courier.Socket.Desk
import Courier.Socket.Reader

/-!
# The bench for sockets

One hub on which connections and a reader run against a virtual clock. Every socket is a pair of
pipes with a client at the other end, whose part is played by hand.
-/

namespace Courier.Simulation

open Socket (Hub Pipe Endpoint Connection ConnectionEvent ConnectionInfo Desk Arrival)

/-- A socket on a bench: the name of its reply channel, its pipes, the end of its client, whether
its connection is to shut down, and what has become of the connection. -/
structure Line where
  sendChannel : String
  toServer : Pipe := {}
  toClient : Pipe := {}
  client : Endpoint := { role := .client }
  stop : Bool := false
  result : Option (Except Socket.Error Unit) := none

/-- What the tasks of a bench share. -/
structure SocketStage where
  hub : Hub
  lines : List Line := []

namespace SocketStage

def setLine (stage : SocketStage) (number : Nat) (line : Line) : SocketStage :=
  { stage with lines := stage.lines.set number line }

end SocketStage

/-- Who runs the connection of a socket. -/
structure Handler where
  number : Nat
  info : ConnectionInfo
  connection : Option Connection := none
  endpoint : Endpoint := { role := .server }

namespace Handler

/-- The next thing that happens to a connection, if there is one. -/
def next (handler : Handler) (connection : Connection) (hub : Hub) (line : Line) :
    Option ConnectionEvent × Endpoint × Hub × Line :=
  if line.stop then (some .shutdown, handler.endpoint, hub, line)
  else
    let (arrival, endpoint, toServer, toClient) :=
      handler.endpoint.read line.toServer line.toClient
    let line := { line with toServer, toClient }
    match arrival with
    | .frame frame => (some (.received frame), endpoint, hub, line)
    | .fault fault => (some (.faulted fault), endpoint, hub, line)
    | .ended => (some .ended, endpoint, hub, line)
    | .pending =>
        if connection.takesFrames then
          match hub.retrieve connection.outbox with
          | (.frame frame, hub) => (some (.queued frame), endpoint, hub, line)
          | (.closed, hub) => (some .released, endpoint, hub, line)
          | (.empty, hub) => (none, endpoint, hub, line)
        else (none, endpoint, hub, line)

/-- Takes over what has become of a connection. Once it has finished, its queue is given up and its
end of the socket is gone. -/
def conclude (handler : Handler) (stage : SocketStage) (line : Line) (handled : Connection × Desk) :
    Standing × Handler × SocketStage :=
  let (connection, desk) := handled
  let handler := { handler with connection := some connection, endpoint := desk.endpoint }
  let line := { line with toClient := desk.outbound }
  match connection.result? with
  | none => (.moved, handler, { stage with hub := desk.hub }.setLine handler.number line)
  | some result =>
      let line :=
        { line with
          toServer := line.toServer.close, toClient := line.toClient.close, result := some result }
      (.ended, handler,
        { stage with hub := desk.hub.detach connection.outbox }.setLine handler.number line)

/-- Lets the next thing happen to a connection, which is opened first. -/
def step (handler : Handler) (stage : SocketStage) (now : Instant) :
    Standing × Handler × SocketStage :=
  let around := Desk.surroundings now
  match stage.lines[handler.number]?, handler.connection with
  | none, _ => (.ended, handler, stage)
  | some line, none =>
      let desk : Desk := ⟨stage.hub, handler.endpoint, line.toClient⟩
      handler.conclude stage line (Connection.start around desk line.sendChannel handler.info)
  | some line, some connection =>
      match handler.next connection stage.hub line with
      | (none, endpoint, hub, line) =>
          (.waiting none, { handler with endpoint }, { stage with hub }.setLine handler.number line)
      | (some event, endpoint, hub, line) =>
          handler.conclude stage line
            (connection.handle around ⟨hub, endpoint, line.toClient⟩ event)

end Handler

/-- A task on a bench for sockets. -/
inductive SocketTask where
  | sleeping (wakeAt : Instant)
  | entering (wakeAt : Instant) (sendChannel : String)
  | keepingVigil (vigil : Socket.Vigil)
  | reading (reader : Socket.Reader)
  | handling (handler : Handler)
  | listening (number : Nat) (deadline : Instant) (arrival : Arrival)
  | joining (number : Nat) (deadline : Instant) (result : Option (Except Socket.Error Unit))

namespace SocketTask

def standingOfReader (reader : Socket.Reader) (now : Instant) : Standing :=
  match reader.state with
  | .stopped => .ended
  | _ => .awaiting? now reader.wakeAt?

/-- How a task stands that is done, or else goes on until a moment. -/
def standingBy (now deadline : Instant) (done : Bool) : Standing :=
  if done || deadline ≤ now then .ended else .waiting (some deadline)

def step (now : Instant) (stage : SocketStage) : SocketTask → Standing × SocketTask × SocketStage
  | .sleeping wakeAt => (standingBy now wakeAt false, .sleeping wakeAt, stage)
  | .entering wakeAt sendChannel =>
      if wakeAt ≤ now then
        (.ended, .entering wakeAt sendChannel,
          { stage with hub := (stage.hub.register sendChannel).2 })
      else (.waiting (some wakeAt), .entering wakeAt sendChannel, stage)
  | .keepingVigil vigil =>
      (standingBy now vigil.deadline (vigil.over stage.hub.directory now), .keepingVigil vigil,
        stage)
  | .reading reader =>
      let (reader, hub) := reader.step stage.hub now false
      (standingOfReader reader now, .reading reader, { stage with hub })
  | .handling handler =>
      let (standing, handler, stage) := handler.step stage now
      (standing, .handling handler, stage)
  | .listening number deadline arrival =>
      match stage.lines[number]? with
      | none => (.ended, .listening number deadline arrival, stage)
      | some line =>
          let (arrival, client, toClient, toServer) := line.client.read line.toClient line.toServer
          (standingBy now deadline (arrival ≠ .pending), .listening number deadline arrival,
            stage.setLine number { line with client, toClient, toServer })
  | .joining number deadline _ =>
      let result := (stage.lines[number]?).bind Line.result
      (standingBy now deadline result.isSome, .joining number deadline result, stage)

end SocketTask

/-- A hub with its sockets and the tasks that run on it. -/
structure SocketBench where
  schedule : Schedule SocketStage SocketTask

namespace SocketBench

def ofHub (hub : Hub) : SocketBench :=
  { schedule := { now := 0, shared := { hub }, background := [] } }

def now (bench : SocketBench) : Instant := bench.schedule.now

def stage (bench : SocketBench) : SocketStage := bench.schedule.shared

def hub (bench : SocketBench) : Hub := bench.stage.hub

def lines (bench : SocketBench) : List Line := bench.stage.lines

def setStage (bench : SocketBench) (stage : SocketStage) : SocketBench :=
  { bench with schedule := { bench.schedule with shared := stage } }

def setHub (bench : SocketBench) (hub : Hub) : SocketBench :=
  bench.setStage { bench.stage with hub }

def setSite (bench : SocketBench) (site : Site) : SocketBench :=
  bench.setHub { bench.hub with site }

def changeLine (bench : SocketBench) (number : Nat) (change : Line → Line) : SocketBench :=
  bench.setStage { bench.stage with lines := bench.lines.modify number change }

def run (bench : SocketBench) (task : SocketTask) : SocketTask × SocketBench :=
  let (task, schedule) := Schedule.run SocketTask.step task bench.schedule Schedule.patience
  (task, { bench with schedule })

def spawn (bench : SocketBench) (task : SocketTask) : SocketBench :=
  { bench with
    schedule := { bench.schedule with background := bench.schedule.background ++ [task] } }

def wait (bench : SocketBench) (duration : Duration) : SocketBench :=
  (bench.run (.sleeping (bench.now + duration))).2

def enterLater (bench : SocketBench) (delay : Duration) (sendChannel : String) : SocketBench :=
  bench.spawn (.entering (bench.now + delay) sendChannel)

/-- Waits until a channel is registered, but not for longer than allowed. -/
def keepVigil (bench : SocketBench) (patience : Duration) : SocketBench :=
  match bench.hub.directory.vigil? bench.now patience with
  | none => bench
  | some vigil => (bench.run (.keepingVigil vigil)).2

/-- Opens a socket. The result is its number. -/
def openSocket (bench : SocketBench) (sendChannel : Nat → String) (info : ConnectionInfo) :
    Nat × SocketBench :=
  let number := bench.lines.length
  let line : Line := { sendChannel := sendChannel number }
  let bench := bench.setStage { bench.stage with lines := bench.lines ++ [line] }
  (number, bench.spawn (.handling { number, info }))

def clientSend (bench : SocketBench) (number : Nat) (frame : Socket.Frame) :
    Except Socket.Fault Unit × SocketBench :=
  match bench.lines[number]? with
  | none => (.error .closed, bench)
  | some line =>
      let (result, client, toServer) := line.client.send line.toServer frame
      (result, bench.changeLine number fun line => { line with client, toServer })

/-- Puts bytes on the wire of a socket, past its client. -/
def clientWrite (bench : SocketBench) (number : Nat) (bytes : List UInt8) :
    Except Socket.Fault Unit × SocketBench :=
  match bench.lines[number]? with
  | none => (.error .closed, bench)
  | some line =>
      match line.toServer.put bytes with
      | .error fault => (.error fault, bench)
      | .ok toServer => (.ok (), bench.changeLine number fun line => { line with toServer })

def clientVanish (bench : SocketBench) (number : Nat) : SocketBench :=
  bench.changeLine number fun line =>
    { line with toServer := line.toServer.close, toClient := line.toClient.close }

/-- Lets the client of a socket wait for the next frame, but not for longer than allowed. -/
def clientReceive (bench : SocketBench) (number : Nat) (patience : Duration) :
    Arrival × SocketBench :=
  match bench.run (.listening number (bench.now + patience) .pending) with
  | (.listening _ _ arrival, bench) => (arrival, bench)
  | (_, bench) => (.pending, bench)

/-- Waits until the connection of a socket has finished, but not for longer than allowed. -/
def join (bench : SocketBench) (number : Nat) (patience : Duration) :
    Option (Except Socket.Error Unit) × SocketBench :=
  match bench.run (.joining number (bench.now + patience) none) with
  | (.joining _ _ result, bench) => (result, bench)
  | (_, bench) => (none, bench)

/-- Runs a program that does not pause to its end. -/
def perform {α : Type} (bench : SocketBench) (program : Program α) : Option α × SocketBench :=
  match bench.hub.site.run bench.now program with
  | (.finished value, site) => (some value, bench.setSite site)
  | (.paused _ _, site) => (none, bench.setSite site)

/-- Takes all messages from a channel, past the counted calls of the backend. -/
def takeAll (bench : SocketBench) (channel : String) : List Message × SocketBench :=
  let site := bench.hub.site
  let store := site.backend.store
  (store.live bench.now channel,
    bench.setSite { site with backend := { site.backend with store := store.putBack channel [] } })

/-- Puts messages on a channel, past the counted calls of the backend. -/
def putAll (bench : SocketBench) (channel : String) (messages : List Message) : SocketBench :=
  let site := bench.hub.site
  let store := messages.foldl (fun store message => (store.send bench.now channel message).2)
    site.backend.store
  bench.setSite { site with backend := { site.backend with store } }

/-- The entries that were logged since the last time, oldest first. -/
def takeLog (bench : SocketBench) : List LogEntry × SocketBench :=
  (bench.hub.site.log.reverse, bench.setSite { bench.hub.site with log := [] })

end SocketBench

end Courier.Simulation
