import Courier.Consumer
import Courier.Http.Request
import Courier.Http.Response
import Courier.Json.Printer
import Courier.Socket.Error
import Courier.Socket.Frame
import Courier.Text.Base64
import Courier.Time

/-!
# Answers to scenarios

What a scenario comes to, as JSON: every step is answered with a value or with an error, and with
what was logged meanwhile.
-/

namespace Courier.Scenario

def ok (value : Json) : Json := .object [("r", value)]

def failure (kind : String) (message : Option String) : Json :=
  .object (("error", .text kind) :: match message with
    | none => []
    | some message => [("message", .text message)])

/-- A text, or null. -/
def optionalText : Option String → Json
  | none => .null
  | some value => .text value

/-- A value, or null. -/
def optional (value : Option Json) : Json := value.getD .null

def textList (values : List String) : Json := .array (values.map .text)

/-- The written form of a value, as a text. -/
def valueText (value : Json) : Json := .text value.render

/-- The written form of a message, as a text. -/
def messageText (message : Message) : Json := .text message.text

def base64 (data : List UInt8) : Json := .text (Base64.encode data)

def channelFailure (error : ChannelError) : Json :=
  failure error.kind (some error.message)

def wrapped {α : Type} (encode : α → Json) : Except ChannelError α → Json
  | .ok value => ok (encode value)
  | .error error => channelFailure error

def httpFailure (error : Http.Error) : Json := failure error.kind (some error.message)

def wrappedHttp {α : Type} (encode : α → Json) : Except Http.Error α → Json
  | .ok value => ok (encode value)
  | .error error => httpFailure error

def socketFailure (error : Socket.Error) : Json := failure error.kind (some error.message)

/-- An answer together with what was logged meanwhile. -/
def withLog (log : List LogEntry) (answer : Json) : Json :=
  match answer with
  | .object fields =>
      .object (fields ++ if log.isEmpty then [] else [("log", textList (log.map LogEntry.line))])
  | other => other

/-- Runs steps one after another, each from the state that the one before it left. -/
def runSteps {σ : Type} (step : σ → Json → σ × Json) : σ → List Json → σ × List Json
  | state, [] => (state, [])
  | state, input :: rest =>
      let (state, answer) := step state input
      let (state, answers) := runSteps step state rest
      (state, answer :: answers)

def sortedTexts (values : List String) : List String :=
  values.mergeSort fun left right => left ≤ right

/-- The whole milliseconds between two moments. -/
def millisSince (start finish : Instant) : Json := .natural (Duration.wholeMillis (finish - start))

/-- Header pairs sorted by name, those of one name in their order. -/
def headersJson (headers : Http.HeaderMap) : Json :=
  let sorted := headers.pairs.mergeSort fun left right => left.1 ≤ right.1
  .array (sorted.map fun pair => .array [.text pair.1, .text (Latin1.decode pair.2)])

def pairsJson (values : List (String × String)) : Json :=
  .array (values.map fun pair => .array [.text pair.1, .text pair.2])

def nativeResponseJson (native : Http.NativeResponse) : Json :=
  .object
    [("status", .natural native.status.code), ("headers", headersJson native.headers),
      ("body", base64 native.body), ("body_broken", .bool native.broken)]

def nativeRequestJson (native : Http.Request) : Json :=
  .object
    [("method", .text native.method), ("uri", .text native.uri.text),
      ("headers", headersJson native.headers), ("body", base64 native.body)]

def dictJson {α : Type} (encode : α → Json) (dict : Dict α) : Json :=
  .object (dict.entries.map fun entry => (entry.1, encode entry.2))

/-- A response as a consumer builds it, with what its headers of some names are. -/
def shownResponse (lookup : List String) (response : Http.Response) : Json :=
  .object
    [("status", .natural response.status.code), ("headers", pairsJson response.headers),
      ("cookies", textList response.cookies),
      ("body", optional (response.body.full?.map base64)),
      ("streaming", .bool response.body.full?.isNone), ("debug", .text response.body.summary),
      ("lookup", .array (lookup.map fun name => optionalText (response.header? name)))]

/-- A frame as an object with one field. -/
def frameJson : Socket.Frame → Json
  | .text content => .object [("text", .text content)]
  | .binary data => .object [("binary", base64 data)]
  | .ping data => .object [("ping", base64 data)]
  | .pong data => .object [("pong", base64 data)]
  | .close none => .object [("close", .null)]
  | .close (some reason) =>
      .object [("close", .array [.natural reason.code, .text reason.reason])]

end Courier.Scenario
