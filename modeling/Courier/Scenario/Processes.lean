import Courier.Process.Run
import Courier.Scenario.Bus

/-!
# Scenarios with processes

The settings of the log, what a process serves for a while, and runs of the command.
-/

namespace Courier.Scenario

open Simulation (Bench)

def logSettings (input : Json) : Logging.Settings :=
  let base : Logging.Settings :=
    match text (field input "preset") with
    | "production" => .production
    | "development" => .development
    | "test" => .test
    | _ => {}
  (items (field input "with")).foldl
    (fun (settings : Logging.Settings) (step : Json) =>
      let value := text (nth step 1)
      match text (nth step 0) with
      | "level" => settings.setLevel value
      | "service" => { settings with service := some value }
      | "env_filter" => { settings with filter := some value }
      | "field" => settings.addField value (nth step 2)
      | "json" => { settings with json := value == "yes" }
      | "pretty" => { settings with pretty := value == "yes" }
      | _ => settings)
    base

def logSettingsJson (settings : Logging.Settings) : Json :=
  .object
    [("level", .text settings.level), ("json_format", .bool settings.json),
      ("pretty_print", .bool settings.pretty), ("include_location", .bool settings.location),
      ("global_fields", valueText (.object settings.fields)),
      ("env_filter", optionalText settings.filter),
      ("service_name", optionalText settings.service),
      ("filter_directive", .text settings.directives)]

/-- The answer to setting up the log twice, of which the second time always fails. -/
def setUpAnswer (settings : Logging.Settings) : Json :=
  let (first, lines) :=
    match settings.setUp with
    | .ok (_, lines) => ("ok", lines)
    | .error _ => ("error", [])
  .object [("results", textList [first, "error"]), ("logged", .array (lines.map valueText))]

/-- The answer for a scenario with the log. -/
def loggingScenario (input : Json) : Json :=
  match present (field input "startup") with
  | some service =>
      let version := text (field input "version")
      ok (.array
        [valueText (Logging.startup (text service) version {}),
          valueText (Logging.shutdown (text service) {})])
  | none =>
      let settings := logSettings input
      if boolOr (field input "init") false then ok (setUpAnswer settings)
      else ok (logSettingsJson settings)

/-- The address of a listener on any free port, if there is to be one. -/
def listener (input : Json) : Option Net.Address :=
  if boolOr input false then some ⟨.four [127, 0, 0, 1], 0⟩ else none

/-- A bench with the demonstration consumers. -/
def demoBench : Bench :=
  let settings : StoreSettings := { receiveTimeout := Duration.ofMillis 10 }
  let registry := ((Layers.build Demo.plan (Demo.catalog {})).1.toOption.bind
    fun layers => layers.defaultLayer.toOption).elim .empty Layer.registry
  Bench.ofSite { backend := .inMemory Backend.defaultLabel settings, registry } {}

def serveOn (bench : Bench) (serving : Process.Serving) (duration : Duration) : Json × Bench :=
  match serving.check bench.site.backend with
  | .error message => (.object [("error", .text message)], bench)
  | .ok warnings =>
      let bench := bench.setSite (bench.site.reportAll warnings)
      let workers := List.replicate serving.workers { settings := {} : Worker }
      (.text "ok", bench.workTogether workers duration)

def serveScenario (input : Json) : Json :=
  let bench := (items (field input "send")).foldl
    (fun (bench : Bench) (entry : Json) =>
      (bench.send (text (nth entry 0)) (message (nth entry 1))).2)
    demoBench
  let serving : Process.Serving :=
    { http := listener (field input "http")
      ws := listener (field input "ws")
      workers := natOr (field input "workers") 1 }
  let (result, bench) := serveOn bench serving (Duration.ofMillis (natOr (field input "run_ms") 20))
  let left := (texts (field input "read")).map fun channel =>
    (channel, Json.array ((bench.left channel).map messageText))
  withLog bench.takeLog.1 (ok (.object [("serve", result), ("left", .object left)]))

/-- What a line of the log says: a record by its event or its message, and anything else as it is,
with the port of a listener hidden. -/
def shownLine (line : String) : String :=
  match Json.parse line with
  | .ok (.object fields) =>
      let shown := (Assoc.find? fields "event").or (Assoc.find? fields "message")
      text (shown.getD .null)
  | _ =>
      match line.splitOn "listening on 127.0.0.1:" with
      | [before, _] => before ++ "listening on 127.0.0.1:*"
      | _ => line

/-- The lines of the log of a run, in order, if they are written as records. -/
def loggedLines (arguments : List String) (result : Process.Result) : List String :=
  match Process.parse arguments with
  | .ok request =>
      if request.json then
        sortedTexts (result.log.map fun report =>
          { report.entry with message := shownLine report.entry.message }.line)
      else []
  | .error _ => []

def commandScenario (input : Json) : Json :=
  let arguments := texts (field input "args")
  let files := pairs (field input "files")
  let result := Process.run arguments fun path => Assoc.find? files path
  let output := if text (field input "show") == "stdout" then
      [("stdout", textList result.output)] else []
  let errors := if result.exit = 1 then [("stderr", textList result.errors)] else []
  ok (.object
    ([("exit", .natural result.exit), ("logged", textList (loggedLines arguments result))] ++
      output ++ errors))

end Courier.Scenario
