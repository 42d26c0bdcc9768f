import Courier.Demo.Consumers
import Courier.Scenario.Bus

/-!
# Scenarios with exchanges

Responses are sent to reply channels, views consume requests, and HTTP clients are answered.
-/

namespace Courier.Scenario

open Simulation (Bench)

/-- A bench with numbered messages on a channel already, and maybe a reader that takes them away. -/
def preloaded (input : Json) (channel : String) : Bench :=
  let bench := Bench.ofSite { backend := backend input } {}
  let count := nat (field input "preload")
  let bench := bench.putAll channel
    ((List.range count).map fun number => Message.empty.set "preload" (.natural number))
  match nat? (field input "read_every_ms") with
  | none => bench
  | some interval =>
      let interval := Duration.ofMillis interval
      bench.spawn (.taking interval (bench.now + interval) channel)

def sendingAnswer (bench : Bench) (channel : String) (program : Program Outcome)
    (encode : Outcome → Json) (more : Bench → List (String × Json)) : Json :=
  let start := bench.now
  let (outcome, bench) := bench.call program
  let (log, bench) := bench.takeLog
  let messages := bench.taken ++ bench.left channel
  ok (.object
    ([("result", withLog log (encode outcome)), ("messages", .array (messages.map messageText)),
      ("waited_ms", millisSince start bench.now)] ++ more bench))

def sentAnswer : Outcome → Json
  | .succeeded => ok (.text "ok")
  | .failed (.http error) => httpFailure error
  | .failed error => failure "Other" (some error.message)
  | .brokeDown _ => failure "Panic" none

def consumedAnswer : Outcome → Json
  | .succeeded => ok (.text "ok")
  | .failed error => failure error.kind (some error.message)
  | .brokeDown _ => failure "Panic" none

/-- A text with every random name in it hidden: a mark that exactly so many letters and digits
follow. -/
def hidden (mark : List Char) (count : Nat) : List Char → (fuel : Nat) → List Char
  | chars, 0 => chars
  | [], _ => []
  | c :: rest, fuel + 1 =>
      let chars := c :: rest
      let after := chars.drop mark.length
      let name := after.takeWhile Char.isAlphanum
      if chars.take mark.length = mark ∧ name.length = count then
        mark ++ '*' :: hidden mark count (after.drop count) fuel
      else c :: hidden mark count rest fuel

/-- A text with the random names in it hidden. -/
def masked (value : String) : String :=
  let chars := value.toList
  let chars := hidden ['!'] 24 chars chars.length
  String.ofList (hidden "switchyard_session=".toList 32 chars chars.length)

/-- Who answers the requests on a bench. -/
def withAnswerer (bench : Bench) (input : Json) : Bench :=
  let http := httpOf (field input "http")
  let serving (consumer : Consumer) : Bench :=
    let bench := (registerOn bench consumer.name consumer [Http.RequestPayload.channel]).1
    bench.spawn (.crew [{ settings := {} : Worker }] Duration.longest)
  match present (field input "responder"), present (field input "view") with
  | some script, _ => bench.spawn (.answering { upcoming := (items script).map handReplies })
  | none, some script => serving (Http.View.consumer "view" http (viewScript script).view)
  | none, none =>
      if boolOr (field input "demo") false then serving (Demo.helloConsumer http) else bench

def exchangeStep (routed : Bool) (http : HttpSettings) (bench : Bench) (input : Json) :
    Bench × Json :=
  match nativeRequest? input with
  | none => (bench, failure "InvalidNativeRequest" none)
  | some request =>
      let start := bench.now
      let (result, bench) := bench.exchange http request
      let waited := ("waited_ms", millisSince start bench.now)
      let answerOf : Json → Json
        | .object fields => .object (fields ++ [waited])
        | other => other
      let (log, bench) := bench.takeLog
      if routed then
        let (native, entries) := Http.routed result
        (bench, withLog (log ++ entries) (answerOf (ok (nativeResponseJson native))))
      else (bench, withLog log (answerOf (wrappedHttp nativeResponseJson result)))

end Courier.Scenario
