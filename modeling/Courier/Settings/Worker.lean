import Courier.Settings.Reading

/-!
# Settings of workers

How long a worker pauses when it is idle and after a failure, and whether it waits inside the
backend for a message.
-/

namespace Courier

/-- The settings of a worker. -/
structure WorkerSettings where
  idleInterval : Duration := Duration.ofMillis 100
  errorBackoff : Duration := Duration.ofSeconds 1
  block : Bool := true
  deriving DecidableEq, Repr, Inhabited

namespace WorkerSettings

def ofPreset : Preset → WorkerSettings
  | .testing => { idleInterval := Duration.ofMillis 10, errorBackoff := Duration.ofMillis 10 }
  | _ => {}

def fields (settings : WorkerSettings) : List (String × Json) :=
  [("idle_interval", Settings.durationJson settings.idleInterval),
    ("error_backoff", Settings.durationJson settings.errorBackoff),
    ("block", .bool settings.block)]

/-- The declared fields. -/
def declared : List Payload.Declared :=
  [Payload.declare "idle_interval" Settings.duration,
    Payload.declare "error_backoff" Settings.duration, Payload.declare "block" .bool]

def reader : Reader WorkerSettings := fun value => do
  let fields ←
    Payload.fieldsOf "struct WorkerConfig" "struct WorkerConfig with 3 elements" declared value
  let idleInterval ← Payload.required fields "idle_interval" Settings.duration
  let errorBackoff ← Payload.required fields "error_backoff" Settings.duration
  let block ← Payload.required fields "block" .bool
  return { idleInterval, errorBackoff, block }

end WorkerSettings

end Courier
