import Courier.Demo.Catalog
import Courier.Layers.Reading
import Courier.Logging.Settings
import Courier.Process.CommandLine
import Courier.Process.Serving

/-!
# A run of the process

What a process does from its command line to its end: it sets up the log, finds its addresses, reads
and builds its layers, and serves until it is interrupted. A run is described by what it logs, what
it says about a failure, and its exit code.
-/

namespace Courier.Process

/-- An entry of the log, with the part of the program that reports it. -/
structure Report where
  part : String
  entry : LogEntry
  deriving DecidableEq, Repr

/-- Why a process fails: what was tried, and what caused it to fail if that is known. -/
structure Failure where
  message : String
  cause? : Option String := none
  deriving DecidableEq, Repr

def Failure.lines (failure : Failure) : List String :=
  let first := "Error: " ++ failure.message
  match failure.cause? with
  | none => [first]
  | some cause => [first, "", "Caused by:", "    " ++ cause]

/-- How a process ends. -/
structure Result where
  exit : Nat
  log : List Report := []
  output : List String := []
  errors : List String := []

def name : String := "switchyard"

def version : String := "0.3.0"

def inform (part message : String) : Report := ⟨part, .info message⟩

def logSettings (request : Request) : Logging.Settings :=
  let base := if request.json then Logging.Settings.production else .development
  let leveled := request.level.elim base base.setLevel
  { leveled with service := some name }

/-- Whether the machine has an address: its own ones, and those that stand for all of them. -/
def hasAddress (address : Net.Address) : Bool :=
  match address.host with
  | .four (first :: rest) => first = 127 || (first :: rest).all (· = 0)
  | .four [] => false
  | .eight groups => groups.dropLast.all (· = 0) && groups.getLast?.any (· ≤ 1)

/-- Whether two hosts share addresses. -/
def overlaps (left right : Net.Host) : Bool :=
  left = right || [left, right].any fun host =>
    match host with
    | .four octets => octets.all (· = 0)
    | .eight groups => groups.all (· = 0)

/-- What keeps an interface from an address, next to the addresses that are taken already. -/
def obstacle? (taken : List Net.Address) (address : Net.Address) : Option String :=
  if !hasAddress address then some "Cannot assign requested address (os error 99)"
  else if taken.any fun other =>
      address.port != 0 && other.port = address.port && overlaps other.host address.host then
    some "Address already in use (os error 98)"
  else none

/-- What is said about an interface that cannot have its address. -/
def cannotBind (interface : String) (address : Net.Address) (cause : String) : Failure :=
  ⟨"Cannot bind " ++ interface ++ " interface to " ++ address.text, some cause⟩

/-- What a process is to run, if it can have its addresses. -/
def bind (request : Request) : Except Failure Serving :=
  match request.command with
  | .worker => .ok { workers := request.workers }
  | .serve http ws =>
      match obstacle? [] http, obstacle? [http] ws with
      | some cause, _ => .error (cannotBind "HTTP" http cause)
      | none, some cause => .error (cannotBind "WebSocket" ws cause)
      | none, none => .ok { http := some http, ws := some ws, workers := request.workers }

/-- The plan of a process: the one in its file, or else the demonstration. -/
def plan (request : Request) (files : String → Option String) : Except Failure Plan :=
  match request.config with
  | none => .ok Demo.plan
  | some path =>
      match Plan.ofFile path (files path) with
      | .ok plan => .ok plan
      | .error error => .error ⟨"Cannot load channel layers from " ++ path, some error.message⟩

def layersPart : String := "switchyard_channels::layers"

def workerPart : String := "switchyard_channels::worker"

def httpPart : String := "switchyard_http::interface"

def socketPart : String := "switchyard_ws::server"

def readerPart : String := "switchyard_ws::reader"

/-- The part of the program that runs everything else. -/
def servingPart : String := "switchyard::app"

def workerReports (workers : Nat) (channels : List String) : List Report :=
  (List.replicate workers
    [inform workerPart ("Worker started on channels: " ++ Text.quoteList channels),
      inform workerPart "Worker shutdown complete"]).flatten

def httpReports : Option Net.Address → List Report
  | none => []
  | some address =>
      [inform httpPart ("HTTP interface listening on " ++ address.text),
        inform httpPart "HTTP interface stopped"]

def socketReports : Option Net.Address → List Report
  | none => []
  | some address =>
      [inform socketPart ("WebSocket interface listening on " ++ address.text),
        inform readerPart "WebSocket backend reader started",
        inform readerPart "WebSocket backend reader stopped",
        inform socketPart "WebSocket interface stopped"]

/-- What a process reports that serves until it is interrupted. -/
def serve (serving : Serving) (layer : Layer) : Except Failure Unit × List Report :=
  match serving.check layer.backend with
  | .error message => (.error ⟨message, none⟩, [])
  | .ok warnings =>
      (.ok (),
        warnings.map (Report.mk servingPart) ++ [inform servingPart "switchyard running"] ++
          workerReports serving.workers layer.registry.channels ++ httpReports serving.http ++
          socketReports serving.ws ++ [inform name "Ctrl-C received, shutting down"])

/-- What a process reports that serves its layers, and then ends. -/
def serveLayers (serving : Serving) (layers : Layers) : Except Failure Unit × List Report :=
  let ready := inform name "Channel layers ready"
  let ending := inform "switchyard::shutdown" (Logging.shutdown name {}).render
  match layers.defaultLayer with
  | .error error => (.error ⟨error.message, none⟩, [ready, ending])
  | .ok layer =>
      let (result, reports) := serve serving layer
      (result, [ready] ++ reports ++ [ending])

def serveFiles (request : Request) (files : String → Option String) :
    Except Failure Unit × List Report :=
  match bind request with
  | .error failure => (.error failure, [])
  | .ok serving =>
      match plan request files with
      | .error failure => (.error failure, [])
      | .ok plan =>
          let (built, entries) := Layers.build plan (Demo.catalog {})
          let readyReports := entries.map (Report.mk layersPart)
          match built with
          | .error error => (.error ⟨error.message, none⟩, readyReports)
          | .ok layers =>
              let (result, reports) := serveLayers serving layers
              (result, readyReports ++ reports)

def perform (request : Request) (files : String → Option String) : Result :=
  match (logSettings request).setUp with
  | .error error => { exit := 1, errors := Failure.lines ⟨error.message, error.cause?⟩ }
  | .ok (filter, announcements) =>
      let begun :=
        announcements.map (fun line => inform Logging.Settings.part line.render) ++
          [inform "switchyard::startup" (Logging.startup name version {}).render]
      let (result, reports) := serveFiles request files
      let log := (begun ++ reports).filter fun report =>
        filter.allows report.part report.entry.severity
      match result with
      | .ok () => { exit := 0, log }
      | .error failure => { exit := 1, log, errors := failure.lines }

/-- Runs the command with some arguments, next to some files. -/
def run (arguments : List String) (files : String → Option String) : Result :=
  match parse arguments with
  | .ok request => perform request files
  | .error .help => { exit := 0 }
  | .error .version => { exit := 0, output := [name ++ " " ++ version] }
  | .error .usage => { exit := 2 }

end Courier.Process
