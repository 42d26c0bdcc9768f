import Courier.Settings.Reading

/-!
# Settings of the HTTP interface

How responses are cut into chunks, how long a client waits for one, where the application is
mounted, how often and after which pauses a full channel is tried again, and how large a request may
be.
-/

namespace Courier

/-- The settings of the HTTP interface. -/
structure HttpSettings where
  chunkSize : Nat := 524288
  responseTimeout : Duration := Duration.ofSeconds 60
  rootPath : String := ""
  sendRetries : Nat := 5
  retryBackoff : Duration := Duration.ofMillis 50
  maxBodySize : Nat := 10485760
  deriving DecidableEq, Repr, Inhabited

namespace HttpSettings

/-- The pause after a number of failed attempts: it doubles ten times and then stays. -/
def backoff (settings : HttpSettings) (attempt : Nat) : Duration :=
  settings.retryBackoff.saturatingMul (Nat.pow 2 (min attempt 10))

def ofPreset : Preset → HttpSettings
  | .standard => {}
  | .development => { responseTimeout := Duration.ofSeconds 30 }
  | .production => { sendRetries := 8 }
  | .testing =>
      { chunkSize := 4, responseTimeout := Duration.ofMillis 300, sendRetries := 3,
        retryBackoff := Duration.ofMillis 5, maxBodySize := 1024 }

def fields (settings : HttpSettings) : List (String × Json) :=
  [("chunk_size", .natural settings.chunkSize),
    ("response_timeout", Settings.durationJson settings.responseTimeout),
    ("root_path", .text settings.rootPath), ("send_retries", .natural settings.sendRetries),
    ("retry_backoff", Settings.durationJson settings.retryBackoff),
    ("max_body_size", .natural settings.maxBodySize)]

/-- The declared fields. -/
def declared : List Payload.Declared :=
  [Payload.declare "chunk_size" Settings.size,
    Payload.declare "response_timeout" Settings.duration, Payload.declare "root_path" .text,
    Payload.declare "send_retries" Settings.count,
    Payload.declare "retry_backoff" Settings.duration,
    Payload.declare "max_body_size" Settings.size]

def reader : Reader HttpSettings := fun value => do
  let fields ←
    Payload.fieldsOf "struct HttpInterfaceConfig" "struct HttpInterfaceConfig with 6 elements"
      declared value
  let chunkSize ← Payload.required fields "chunk_size" Settings.size
  let responseTimeout ← Payload.required fields "response_timeout" Settings.duration
  let rootPath ← Payload.required fields "root_path" .text
  let sendRetries ← Payload.required fields "send_retries" Settings.count
  let retryBackoff ← Payload.required fields "retry_backoff" Settings.duration
  let maxBodySize ← Payload.required fields "max_body_size" Settings.size
  return { chunkSize, responseTimeout, rootPath, sendRetries, retryBackoff, maxBodySize }

end HttpSettings

end Courier
