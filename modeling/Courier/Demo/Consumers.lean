import Courier.Http.View
import Courier.Socket.Payload

/-!
# Demonstration consumers

Two consumers to try the interfaces with: one echoes the frames of sockets, the other greets the
clients of the HTTP interface and counts their visits in a session.
-/

namespace Courier.Demo

def echoName : String := "echo"

def helloName : String := "hello"

def sessionCookie : String := "switchyard_session"

def echoOf (payload : Socket.Receive) : Except ChannelError Socket.Send :=
  match payload.text? with
  | some text => .ok (.ofText text)
  | none => payload.bytes.map .ofBytes

/-- Sends every frame back to the socket from which it came. -/
def echo : Consumer where
  name := echoName
  consume message _ :=
    match Socket.Receive.ofMessage message with
    | .error error => .done (.failed (.channel (Payload.malformed error)))
    | .ok payload =>
        match echoOf payload with
        | .error error => .done (.failed (.channel error))
        | .ok reply => do return .ofResult (← Program.send payload.sendChannel reply.toMessage)

def visitsField : String := "visits"

/-- How many visits a session has seen; anything but a count stands for none. -/
def visits (session : Session) : Nat :=
  match session.get? visitsField with
  | some (.integer count) => count.toNat
  | _ => 0

/-- The key of the session of a request; a request without one is given a fresh key. -/
def sessionKey (request : Http.RequestPayload) : Program String :=
  match request.sessionKey? sessionCookie with
  | some key => .done key
  | none => Program.freshKey

def greeting (name : String) (visits : Nat) : String :=
  "Hello, " ++ name ++ "! Visit #" ++ toString visits ++ "\n"

/-- The greeting, with a cookie that holds the key of the session. -/
def welcome (name key : String) (visits : Nat) : Http.Response :=
  { Http.Response.text .ok (greeting name visits) with
    cookies := [sessionCookie ++ "=" ++ key ++ "; Path=/; HttpOnly"] }

/-- Greets a visitor by name and counts the visit. -/
def hello : Http.View := fun request _ => do
  let name := (request.queryParam? "name").getD "world"
  let key ← sessionKey request
  let session := Session.ofStored key (← Program.loadSession key)
  let count := visits session + 1
  let (result, _) ← (session.insert visitsField (.natural count)).saveIfModified Program.saveSession
  match result with
  | .error error => return .failed (.channel error)
  | .ok _ => return .immediate (welcome name key count)

def helloConsumer (settings : HttpSettings) : Consumer :=
  Http.View.consumer helloName settings hello

end Courier.Demo
