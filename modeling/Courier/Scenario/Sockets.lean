import Courier.Demo.Consumers
import Courier.Net.Address
import Courier.Scenario.Answer
import Courier.Scenario.Setup
import Courier.Simulation.SocketBench

/-!
# Scenarios with sockets

Channels are registered and frames are queued for them; connections run over pipes, and their
clients are played by hand.
-/

namespace Courier.Scenario

open Simulation (SocketBench)

def wrappedSocket {α : Type} (encode : α → Json) : Except Socket.Error α → Json
  | .ok value => ok (encode value)
  | .error error => socketFailure error

/-- The answer to what only succeeds, or has a fault. -/
def faultAnswer : Except Socket.Fault Unit → Json
  | .ok () => ok (.text "ok")
  | .error fault => socketFailure (.ofFault fault)

def deliveryName : Socket.Delivery → String
  | .delivered => "Delivered"
  | .connectionGone => "ConnectionGone"
  | .dropped => "Dropped"

/-! ## Queues -/

/-- A bench for sockets with the queues that are kept under labels. -/
structure QueueBench where
  bench : SocketBench
  labels : Assoc Nat := []

def setDirectory (bench : SocketBench) (directory : Socket.Directory) : SocketBench :=
  bench.setHub { bench.hub with directory }

/-- Gives up the queue that is kept under a label, if there is one. -/
def giveUp (bench : QueueBench) (label : String) : Bool × QueueBench :=
  match bench.labels.find? label with
  | none => (false, bench)
  | some number =>
      (true,
        { bench := bench.bench.setHub (bench.bench.hub.detach number)
          labels := bench.labels.erase label })

def retrieve (bench : QueueBench) (label : String) : Json × QueueBench :=
  match bench.labels.find? label with
  | none => (.text "closed", bench)
  | some number =>
      let (retrieval, hub) := bench.bench.hub.retrieve number
      let answer : Json :=
        match retrieval with
        | .frame frame => frameJson frame
        | .empty => .text "empty"
        | .closed => .text "closed"
      (answer, { bench with bench := bench.bench.setHub hub })

/-- Takes a step on a bench with queues. -/
def queueStepBare (bench : QueueBench) (step : Json) : QueueBench × Json :=
  let name := text (nth step 1)
  let hub := bench.bench.hub
  match text (nth step 0) with
  | "register" =>
      let label := text (nth step 2)
      let (number, hub) := hub.register name
      let (_, bench) := giveUp { bench with bench := bench.bench.setHub hub } label
      ({ bench with labels := bench.labels.insert label number },
        ok (.natural bench.bench.hub.directory.size))
  | "register_later" =>
      let delay := Duration.ofMillis (nat (nth step 1))
      ({ bench with bench := bench.bench.enterLater delay (text (nth step 2)) }, ok (.text "ok"))
  | "unregister" =>
      let (found, directory) := hub.directory.unregister name
      ({ bench with bench := setDirectory bench.bench directory }, ok (.bool found))
  | "drop" =>
      let (found, bench) := giveUp bench name
      (bench, ok (.bool found))
  | "dispatch" =>
      let (result, directory) := hub.directory.dispatch name (frame (nth step 2))
      ({ bench with bench := setDirectory bench.bench directory },
        wrappedSocket (fun _ => .text "ok") result)
  | "deliver" =>
      let (delivery, hub) := hub.deliver name (message (nth step 2))
      ({ bench with bench := bench.bench.setHub hub }, ok (.text (deliveryName delivery)))
  | "recv" =>
      let (answer, bench) := retrieve bench name
      (bench, ok answer)
  | "channels" => (bench, ok (textList (sortedTexts hub.directory.channels)))
  | "count" => (bench, ok (.natural hub.directory.size))
  | "connected" => (bench, ok (.bool (hub.directory.registered name)))
  | _ =>
      let start := bench.bench.now
      let waited := bench.bench.keepVigil (Duration.ofMillis (nat (nth step 1)))
      ({ bench with bench := waited }, ok (millisSince start waited.now))

/-- Takes a step on a bench with queues and tells what was logged meanwhile. -/
def queueStep (bench : QueueBench) (step : Json) : QueueBench × Json :=
  let (bench, answer) := queueStepBare bench step
  let (log, inner) := bench.bench.takeLog
  ({ bench with bench := inner }, withLog log answer)

/-- The answer to a scenario with queues. -/
def queuesScenario (input : Json) : Json :=
  let directory := Socket.Directory.ofDepth (natOr (field input "depth") 64)
  let bench := SocketBench.ofHub { site := { backend := backend input }, directory }
  ok (.array (runSteps queueStep { bench } (items (field input "steps"))).2)

/-! ## Connections -/

def socketChannel (number : Nat) : String :=
  Channel.join Socket.sendBase ("#" ++ toString number)

/-- The group of all sockets. -/
def everybody : String := "all"

/-- How long a client or an onlooker waits. -/
def shortWhile : Duration := Duration.ofMillis 500

/-- How long everything may run after a step. -/
def breath : Duration := Duration.ofMillis 1

def connectionInfo (input : Json) : Socket.ConnectionInfo :=
  { path := text (field input "path")
    queryString := text (field input "query_string")
    client := ((field input "client").text?.bind Net.Address.ofText?).map Net.Address.text }

def arrivalJson : Socket.Arrival → Json
  | .pending => ok (.text "nothing")
  | .frame frame => ok (frameJson frame)
  | .ended => ok (.text "end")
  | .fault fault => socketFailure (.ofFault fault)

/-- Hands messages to the consumer that echoes, and counts the successes. -/
def echoAll (bench : SocketBench) : List Message → Nat × SocketBench
  | [] => (0, bench)
  | message :: rest =>
      let context : Context := ⟨Socket.receiveChannel, bench.hub.site.backend.label⟩
      let (outcome, bench) := bench.perform (Demo.echo.consume message context)
      let (count, bench) := echoAll bench rest
      match outcome with
      | some .succeeded => (count + 1, bench)
      | _ => (count, bench)

def takeEach (bench : SocketBench) : List String → List (String × Json) × SocketBench
  | [] => ([], bench)
  | channel :: rest =>
      let (messages, bench) := bench.takeAll channel
      let (others, bench) := takeEach bench rest
      ((channel, .array (messages.map messageText)) :: others, bench)

/-- Takes a step on a bench with connections. -/
def socketStepBare (bench : SocketBench) (step : Json) : SocketBench × Json :=
  let first := nth step 1
  let number := nat first
  match text (nth step 0) with
  | "open" =>
      let (number, bench) := bench.openSocket socketChannel (connectionInfo first)
      (bench, ok (.natural number))
  | "client" =>
      let (result, bench) := bench.clientSend number (frame (nth step 2))
      (bench, faultAnswer result)
  | "client_raw" =>
      let (result, bench) := bench.clientWrite number (bytes (nth step 2))
      (bench, faultAnswer result)
  | "client_drop" => (bench.clientVanish number, ok (.text "ok"))
  | "client_recv" =>
      let (arrival, bench) := bench.clientReceive number shortWhile
      (bench, arrivalJson arrival)
  | "push" =>
      let (result, hub) := bench.hub.send bench.now (socketChannel number) (message (nth step 2))
      (bench.setHub hub, wrapped (fun _ => .text "ok") result)
  | "push_group" =>
      let site := bench.hub.site
      let store := bench.lines.foldl
        (fun store line => store.join bench.now everybody line.sendChannel) site.backend.store
      let bench := bench.setSite { site with backend := { site.backend with store } }
      let (count, bench) := bench.perform (Program.sendGroup everybody (message first))
      (bench, ok (.natural (count.getD 0)))
  | "fill" =>
      let messages := (List.range (nat (nth step 2))).map fun number =>
        Message.empty.set "fill" (.natural number)
      (bench.putAll (text first) messages, ok (.text "ok"))
  | "events" =>
      let (events, bench) := takeEach bench
        [Socket.connectChannel, Socket.receiveChannel, Socket.disconnectChannel]
      (bench, ok (.object events))
  | "echo" =>
      let (messages, bench) := bench.takeAll Socket.receiveChannel
      let (count, bench) := echoAll bench messages
      (bench, ok (.natural count))
  | "shutdown" =>
      (bench.changeLine number fun line => { line with stop := true }, ok (.text "ok"))
  | "wait" => (bench.wait (Duration.ofMillis number), ok (.text "ok"))
  | "state" =>
      let directory := bench.hub.directory
      (bench, ok (.object
        [("count", .natural directory.size),
          ("sockets", .array (bench.lines.map fun line =>
            .array [.bool (directory.registered line.sendChannel), .bool line.result.isSome]))]))
  | _ =>
      let (result, bench) := bench.join number shortWhile
      match result with
      | none => (bench, ok (.text "running"))
      | some result => (bench, wrappedSocket (fun _ => .text "ok") result)

/-- Takes a step on a bench with connections, lets everything run for a moment, and tells what was
logged meanwhile. -/
def socketStep (bench : SocketBench) (step : Json) : SocketBench × Json :=
  let (bench, answer) := socketStepBare bench step
  let (log, bench) := (bench.wait breath).takeLog
  (bench, withLog log answer)

def socketsOf (input : Json) : SocketSettings :=
  let base : SocketSettings := {}
  { base with
    outboundQueue := natOr (field input "outbound_queue") base.outboundQueue
    idleInterval := millisOr (field input "idle_interval_ms") base.idleInterval
    errorBackoff := millisOr (field input "error_backoff_ms") base.errorBackoff }

/-- The answer to a scenario with connections. -/
def socketsScenario (input : Json) : Json :=
  let settings := socketsOf (field input "ws")
  let directory := Socket.Directory.ofDepth settings.outboundQueue
  let bench := SocketBench.ofHub { site := { backend := backend input }, directory }
  let bench :=
    if boolOr (field input "reader") true then bench.spawn (.reading { settings }) else bench
  ok (.array (runSteps socketStep bench (items (field input "steps"))).2)

end Courier.Scenario
