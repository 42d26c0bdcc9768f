import Courier.Consumer
import Courier.Http.Request
import Courier.Http.Sending

/-!
# Views

A view answers a request with a response, or defers the answer to someone else. The consumer around
a view reads the request, sends the response and sees to it that a client gets at most one head: a
view that fails is answered for, and so is a response of which nothing could be sent.
-/

namespace Courier.Http

/-- How a view ended. -/
inductive ViewResult where
  | immediate (response : Response)
  | deferred (replyChannel : String)
  | failed (error : ConsumerError)
  | brokeDown (reason : Option String)

/-- A function from requests to responses. -/
abbrev View := RequestPayload → Context → Program ViewResult

namespace View

/-- How the consumer ends when the response could not be sent at all. -/
def outcomeOf : Except Error Unit → Outcome
  | .ok () => .succeeded
  | .error error => .failed (.http error)

def answer (settings : HttpSettings) (channel : String) (response : Response) :
    Program Outcome := do
  match ← sendResponse settings channel response with
  | .ok () => return .succeeded
  | .error (.responseInterrupted replyChannel source) =>
      let error := Error.responseInterrupted replyChannel source
      Program.report (.warning ("Response cut short: " ++ error.message))
      return .failed (.http error)
  | .error error =>
      Program.report
        (.warning ("Failed to send response, sending fallback: " ++ error.message))
      return outcomeOf (← sendResponse settings channel .failure)

def consume (settings : HttpSettings) (view : View) (message : Message) (context : Context) :
    Program Outcome :=
  match RequestPayload.ofMessage message with
  | .error error => .done (.failed (.channel (Payload.malformed error)))
  | .ok request => do
      match ← view request context with
      | .immediate response => answer settings request.replyChannel response
      | .deferred _ => return .succeeded
      | .brokeDown reason => return .brokeDown reason
      | .failed error =>
          Program.report (.error ("View failed: " ++ error.message))
          answer settings request.replyChannel .failure

def consumer (name : String) (settings : HttpSettings) (view : View) : Consumer :=
  ⟨name, consume settings view⟩

end View

end Courier.Http
