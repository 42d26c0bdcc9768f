import Courier.Scenario.Answer
import Courier.Scenario.Setup

/-!
# Scenarios on a backend

Steps on a bench: messages are sent, received and consumed, and time passes.
-/

namespace Courier.Scenario

open Simulation (Bench)

def noteJson (note : String × Message) : Json := .array [.text note.1, messageText note.2]

/-- Notes grouped by channel, each group in order, with its messages changed by a function. -/
def grouped (notes : List (String × Message)) (arrange : List String → List String) : Json :=
  let groups : Assoc (List String) := notes.foldl
    (fun groups note =>
      groups.insert note.1 ((groups.find? note.1).getD [] ++ [note.2.text])) []
  .object (groups.map fun group => (group.1, textList (arrange group.2)))

/-- Sends numbered messages until one is refused. -/
def fillWith (bench : Bench) (channel name : String) (next : Nat) :
    Nat → Nat × Option ChannelError × Bench
  | 0 => (next, none, bench)
  | left + 1 =>
      match bench.send channel (Message.empty.set name (.natural next)) with
      | (.ok (), bench) => fillWith bench channel name (next + 1) left
      | (.error error, bench) => (next, some error, bench)

def turnName : TurnResult → Json
  | .idle => .text "Idle"
  | .processed => .text "Processed"
  | .failed => .text "Failed"
  | .dropped => .text "Dropped"

/-- The answer to what only succeeds. -/
def unitText {α : Type} : α → Json := fun _ => .text "ok"

/-- The answer to a turn, with what was seen meanwhile. -/
def turnAnswer (result : Except ChannelError TurnResult × Bench) : Bench × Json :=
  let (result, bench) := result
  let (notes, bench) := bench.takeNotes
  match result with
  | .error error => (bench, channelFailure error)
  | .ok result => (bench, ok (.array [turnName result, .array (notes.map noteJson)]))

def registerOn (bench : Bench) (name : String) (consumer : Consumer) (channels : List String) :
    Bench × Json :=
  match bench.site.registry.add name consumer channels with
  | .error error => (bench, channelFailure error)
  | .ok registry =>
      (bench.setSite { bench.site with registry }, ok (.natural registry.size))

/-- Receives in vain, as often as said. -/
def extraReceives (bench : Bench) (channel : String) : Nat → Bench
  | 0 => bench
  | count + 1 => extraReceives (bench.receive [channel] false).2 channel count

def busStepBare (bench : Bench) (step : Json) : Bench × Json :=
  let first := nth step 1
  let name := text first
  let store := bench.site.backend.store
  match text (nth step 0) with
  | "send" | "channel_send" =>
      let (result, bench) := bench.send name (message (nth step 2))
      (bench, wrapped unitText result)
  | "send_later" =>
      let delay := Duration.ofMillis (nat first)
      (bench.spawn (.later delay (text (nth step 2)) (message (nth step 3))), ok (.text "ok"))
  | "fill" =>
      let (count, error, bench) := fillWith bench name "n" 0 (nat (nth step 2))
      (bench, ok (.array [.natural count, optionalText (error.map ChannelError.message)]))
  | "receive" =>
      let start := bench.now
      let (result, bench) := bench.receive (texts first) (boolOr (nth step 2) false)
      let waited := ("waited_ms", millisSince start bench.now)
      match result with
      | .error error => (bench, channelFailure error)
      | .ok none => (bench, ok (.object [("channel", .null), waited]))
      | .ok (some (channel, message)) =>
          (bench, ok (.object
            [("channel", .text channel), ("message", messageText message), waited]))
  | "drain" =>
      let (result, bench) := bench.drainAll (texts first)
      (bench, wrapped (fun found => grouped found id) result)
  | "contend" =>
      match nat (nth step 2) with
      | 0 => (bench, ok (.array []))
      | others + 1 =>
          let (result, bench) := bench.settle.drainAll [name]
          let bench := extraReceives bench name others
          (bench,
            wrapped (fun found => textList (sortedTexts (found.map fun entry => entry.2.text)))
              result)
  | "queued" => (bench, ok (.natural (store.queued bench.now name)))
  | "flush" => (bench.setStore store.flush, ok (.text "ok"))
  | "backend_config" => (bench, ok (valueText (.object store.settings.fields)))
  | "advance" => (bench.advance (Duration.ofMillis (nat first)), ok (.text "ok"))
  | "group_add" =>
      (bench.setStore (store.join bench.now name (text (nth step 2))), ok (.text "ok"))
  | "group_discard" => (bench.setStore (store.leave name (text (nth step 2))), ok (.text "ok"))
  | "group_channels" =>
      let (members, store) := store.members bench.now name
      (bench.setStore store, ok (textList members))
  | "group_send" =>
      let program := Program.sendGroup name (message (nth step 2))
      match bench.site.run bench.now program with
      | (.finished count, site) => (bench.setSite site, ok (.natural count))
      | (_, site) => (bench.setSite site, ok .null)
  | "describe" =>
      let backend := bench.site.backend
      (bench, ok (.object
        [("alias", .text backend.label), ("local_only", .bool backend.isLocal),
          ("names", textList [name, name]), ("backend", .text backend.label),
          ("channel", .text (backend.channelSummary name)),
          ("group", .text (backend.groupSummary name)),
          ("registry", .text bench.site.registry.summary)]))
  | "register" =>
      let name := text (field first "name")
      let script :=
        if boolOr (field first "closure") false then {} else consumerScript (field first "do")
      registerOn bench name (script.consumer name) (texts (field first "channels"))
  | "consumer_for" =>
      (bench, ok (optionalText ((bench.site.registry.consumer? name).map Consumer.name)))
  | "registered" =>
      let registry := bench.site.registry
      (bench, ok (.array
        [textList registry.channels, .natural registry.size, .bool registry.isEmpty]))
  | "run_once" => turnAnswer bench.turn
  | "dispatch" => turnAnswer (bench.dispatch name (message (nth step 2)))
  | "run" =>
      let (notes, bench) := (bench.work (Duration.ofMillis (nat first))).takeNotes
      (bench, ok (grouped notes id))
  | "run_spawned" =>
      let workers := List.replicate (nat (nth step 2)) { settings := { block := false } : Worker }
      let bench := bench.workTogether workers (Duration.ofMillis (nat first))
      let (notes, bench) := bench.takeNotes
      (bench, ok (grouped notes sortedTexts))
  | _ =>
      let tally := bench.worker.tally
      (bench, ok (.object
        [("received", .natural tally.received), ("processed", .natural tally.processed),
          ("failed", .natural tally.failed), ("dropped", .natural tally.dropped),
          ("channels", textList bench.site.registry.channels)]))

def busStep (bench : Bench) (step : Json) : Bench × Json :=
  let (bench, answer) := busStepBare bench step
  let (log, bench) := bench.takeLog
  (bench, withLog log answer)

end Courier.Scenario
