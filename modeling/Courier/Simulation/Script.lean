import Courier.Consumer
import Courier.Http.View
import Courier.Socket.Payload

/-!
# Scripted consumers

Consumers and views that do what a script says, for trying out workers and interfaces.
-/

namespace Courier.Simulation

/-- How a scripted consumer breaks down. -/
inductive Breakdown where
  | withReason (reason : String)
  | withoutReason

/-- What a scripted consumer does, in this order. -/
structure ConsumerScript where
  failure : Option ConsumerError := none
  breakdown : Option Breakdown := none
  need : Option String := none
  pause : Option Duration := none
  reply : Bool := false
  forward : Option String := none
  group : Option String := none

namespace ConsumerScript

def outcomeOf : Breakdown → Outcome
  | .withReason reason => .brokeDown (some reason)
  | .withoutReason => .brokeDown none

def needed (message : Message) (field : String) : Except DecodeError Socket.Disconnect :=
  Socket.Disconnect.ofMessage
    (Message.empty.set "send_channel" ((message.get? field).getD .null))

/-- Answers a message on its reply channel, if it is to be answered. -/
def sendReply (script : ConsumerScript) (message : Message) (context : Context) :
    Program (Except ChannelError Unit) :=
  if script.reply then
    Program.send ((message.text? "reply_channel").getD "")
      (message.set "via" (.text context.summary))
  else .done (.ok ())

/-- Forwards a message, if it is to be forwarded. -/
def sendOn (script : ConsumerScript) (message : Message) : Program (Except ChannelError Unit) :=
  match script.forward with
  | none => .done (.ok ())
  | some channel => Program.send channel message

/-- Does what is left of a script once nothing fails any more by itself. -/
def act (script : ConsumerScript) (message : Message) (context : Context) : Program Outcome := do
  match script.pause with
  | none => pure ()
  | some duration => Program.pause duration
  match ← script.sendReply message context with
  | .error error => return .failed (.channel error)
  | .ok () =>
      match ← script.sendOn message with
      | .error error => return .failed (.channel error)
      | .ok () =>
          match script.group with
          | none => return .succeeded
          | some group =>
              let _ ← Program.sendGroup group message
              return .succeeded

def follow (script : ConsumerScript) (message : Message) (context : Context) : Program Outcome := do
  Program.record context.channel message
  match script.failure, script.breakdown, script.need.map (needed message) with
  | some error, _, _ => return .failed error
  | none, some breakdown, _ => return outcomeOf breakdown
  | none, none, some (.error error) => return .failed (.channel (Payload.malformed error))
  | none, none, _ => script.act message context

def consumer (script : ConsumerScript) (name : String) : Consumer := ⟨name, script.follow⟩

end ConsumerScript

/-- What a scripted view does: at most one of these, or else it tells what it was asked. -/
inductive ViewScript where
  | fails (reason : String)
  | defers (channel : String)
  | breaksDown (reason : String)
  | responds (response : Http.Response)
  | echoes

namespace ViewScript

/-- What a request asks for, in one line. -/
def echo (request : Http.RequestPayload) : String :=
  request.method ++ " " ++ request.pathInfo ++ " " ++ (request.queryParam? "q").getD "-" ++ " " ++
    (request.formParam? "f").getD "-"

def view (script : ViewScript) : Http.View := fun request _ =>
  match script with
  | .fails reason => .done (.failed (.other reason))
  | .breaksDown reason => .done (.brokeDown (some reason))
  | .responds response => .done (.immediate response)
  | .echoes => .done (.immediate (.text .ok (echo request)))
  | .defers channel => do
      let message := Message.empty.set "reply_channel" (.text request.replyChannel)
      match ← Program.send channel message with
      | .error error => return .failed (.channel error)
      | .ok () => return .deferred request.replyChannel

end ViewScript

end Courier.Simulation
