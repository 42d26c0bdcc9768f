import Courier.Channel.Error
import Courier.Json.Parser
import Courier.Json.Printer

/-!
# Messages

What travels through a channel: named JSON values that keep their order. A message has a text form,
which is a JSON object.
-/

namespace Courier

/-- Named values, in the order in which their names were first stored. -/
structure Message where
  fields : List (String × Json)
  deriving Inhabited, Repr

namespace Message

/-- The message without fields. -/
def empty : Message := ⟨[]⟩

def toJson (message : Message) : Json := .object message.fields

def text (message : Message) : String := message.toJson.render

/-- Why a text is not the text of a message. -/
inductive TextError where
  | notJson (error : Json.ParseError)
  | notAnObject (found : String)
  deriving DecidableEq, Repr

/-- The wording of an error; what exactly is wrong with a text that is not JSON is left open. -/
def TextError.message : TextError → String
  | .notJson _ => "not JSON"
  | .notAnObject found => "expected a JSON object, got " ++ found

def ofText (text : String) : Except TextError Message :=
  match Json.parse text with
  | .error error => .error (.notJson error)
  | .ok (.object fields) => .ok ⟨fields⟩
  | .ok value => .error (.notAnObject value.kind)

def ofPayload (value : Json) : Except ChannelError Message :=
  match value with
  | .object fields => .ok ⟨fields⟩
  | value =>
      .error (.malformedMessage ("payload must serialize to an object, got " ++ value.kind))

/-- The message with fields stored one after another. -/
def ofPairs (pairs : List (String × Json)) : Message := ⟨Assoc.ofPairs pairs⟩

/-- The message with a field stored. -/
def set (message : Message) (name : String) (value : Json) : Message :=
  ⟨Assoc.insert message.fields name value⟩

def get? (message : Message) (name : String) : Option Json := Assoc.find? message.fields name

def text? (message : Message) (name : String) : Option String :=
  (message.get? name).bind Json.text?

def has (message : Message) (name : String) : Bool := (message.get? name).isSome

/-- The names of the fields, in order. -/
def names (message : Message) : List String := Assoc.keys message.fields

def size (message : Message) : Nat := message.fields.length

def same (left right : Message) : Bool := left.toJson.same right.toJson

end Message

end Courier
