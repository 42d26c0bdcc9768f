import Courier.Log
import Courier.Message
import Courier.Session.Basic
import Courier.Time

/-!
# Programs

What a consumer does, as a tree of actions on the channel layer: after each action the program goes
on with its answer. A program says nothing about who performs its actions, so that the same one can
be run against a store or against a script of answers.
-/

namespace Courier

/-- An action of a program. -/
inductive Action where
  | send (channel : String) (message : Message)
  | members (group : String)
  | pause (duration : Duration)
  | report (entry : LogEntry)
  | record (channel : String) (message : Message)
  | loadSession (key : String)
  | saveSession (key : String) (data : SessionData)
  | freshKey

/-- What an action is answered with. -/
def Action.Answer : Action → Type
  | .send _ _ => Except ChannelError Unit
  | .members _ => List String
  | .pause _ => Unit
  | .report _ => Unit
  | .record _ _ => Unit
  | .loadSession _ => Option SessionData
  | .saveSession _ _ => Except ChannelError Unit
  | .freshKey => String

/-- A result, or an action and how the program goes on with its answer. -/
inductive Program (α : Type) where
  | done (value : α)
  | perform (action : Action) (next : action.Answer → Program α)

namespace Program

variable {α β : Type}

/-- Goes on with the result of a program. -/
def bind (program : Program α) (next : α → Program β) : Program β :=
  match program with
  | .done value => next value
  | .perform action rest => .perform action fun answer => (rest answer).bind next

instance : Monad Program where
  pure := .done
  bind := bind

instance [Inhabited α] : Inhabited (Program α) := ⟨.done default⟩

def send (channel : String) (message : Message) : Program (Except ChannelError Unit) :=
  .perform (.send channel message) .done

def members (group : String) : Program (List String) := .perform (.members group) .done

def pause (duration : Duration) : Program Unit := .perform (.pause duration) .done

def report (entry : LogEntry) : Program Unit := .perform (.report entry) .done

def record (channel : String) (message : Message) : Program Unit :=
  .perform (.record channel message) .done

def loadSession (key : String) : Program (Option SessionData) := .perform (.loadSession key) .done

def saveSession (key : String) (data : SessionData) : Program (Except ChannelError Unit) :=
  .perform (.saveSession key data) .done

/-- A key that was not used before. -/
def freshKey : Program String := .perform .freshKey .done

/-- Sends a message to each of some channels and counts the successes; a failure is reported and
does not keep the others from being tried. -/
def sendEach (message : Message) : List String → Program Nat
  | [] => .done 0
  | channel :: rest => do
      match ← send channel message with
      | .ok () => return (← sendEach message rest) + 1
      | .error error =>
          report (.warning ("Group delivery failed: " ++ error.message))
          sendEach message rest

/-- Sends a message to every channel of a group and counts the successes. -/
def sendGroup (group : String) (message : Message) : Program Nat := do
  sendEach message (← members group)

end Program

end Courier
