import Courier.Http.Error
import Courier.Program
import Courier.Text.Quoted

/-!
# Consumers

A consumer handles the messages of the channels to which it is bound. It succeeds, fails with an
error or breaks down; what is said about a breakdown may be nothing.
-/

namespace Courier

/-- Why a consumer failed. -/
inductive ConsumerError where
  | channel (error : ChannelError)
  | http (error : Http.Error)
  | other (reason : String)

def ConsumerError.message : ConsumerError → String
  | channel error => error.message
  | http error => error.message
  | other reason => reason

/-- The name of the kind of an error, with the kind of its source. -/
def ConsumerError.kind : ConsumerError → String
  | channel error => error.kind
  | http error => "Http/" ++ error.kind
  | other _ => "Other"

/-- How a consumer ended. -/
inductive Outcome where
  | succeeded
  | failed (error : ConsumerError)
  | brokeDown (reason : Option String)

/-- Where a message came from. -/
structure Context where
  channel : String
  backend : String
  deriving DecidableEq, Repr

def Context.summary (context : Context) : String :=
  Text.record "ConsumerContext"
    [("channel", Text.quote context.channel), ("backend", Text.quote context.backend)]

/-- A handler of messages, with a name. -/
structure Consumer where
  name : String
  consume : Message → Context → Program Outcome

instance : Inhabited Consumer := ⟨⟨"", fun _ _ => .done .succeeded⟩⟩

namespace Outcome

/-- The outcome of the operation of the channel layer that ends a consumer. -/
def ofResult : Except ChannelError Unit → Outcome
  | .ok () => .succeeded
  | .error error => .failed (.channel error)

/-- What is said about a breakdown that says nothing about itself. -/
def unknownReason : String := "unknown panic"

/-- What is logged about a consumer. A malformed message is the sender's fault. -/
def report? : Outcome → Option LogEntry
  | .succeeded => none
  | .failed (.channel (.malformedMessage reason)) =>
      some (.warning ("Dropping malformed message: " ++ reason))
  | .failed error => some (.error ("Consumer failed: " ++ error.message))
  | .brokeDown reason => some (.error ("Consumer panicked: " ++ reason.getD unknownReason))

end Outcome

end Courier
