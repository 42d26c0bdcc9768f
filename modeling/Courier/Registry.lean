import Courier.Channel.Error
import Courier.Data.Dict
import Courier.Text.Quoted

/-!
# Registries

Which consumer handles the messages of which channel. A registration binds all of its channels or
none, and a binding is never replaced.
-/

namespace Courier

/-- The consumer of every bound channel. -/
structure Registry (α : Type) where
  bindings : Dict α

namespace Registry

variable {α : Type}

/-- The registry without bindings. -/
def empty : Registry α := ⟨.empty⟩

instance : Inhabited (Registry α) := ⟨empty⟩

def consumer? (registry : Registry α) (channel : String) : Option α :=
  registry.bindings.find? channel

/-- The bound channels, in order. -/
def channels (registry : Registry α) : List String := registry.bindings.keys

def size (registry : Registry α) : Nat := registry.bindings.size

/-- Whether no channel is bound. -/
def isEmpty (registry : Registry α) : Bool := registry.bindings.isEmpty

/-- The first channel that is bound already or repeats an earlier one. -/
def firstTaken (registry : Registry α) (earlier : List String) : List String → Option String
  | [] => none
  | channel :: rest =>
      if registry.bindings.has channel || earlier.contains channel then some channel
      else registry.firstTaken (channel :: earlier) rest

/-- Binds channels to a consumer, one after another. -/
def bind (registry : Registry α) (consumer : α) (channels : List String) : Registry α :=
  ⟨channels.foldl (fun bindings channel => bindings.insert channel consumer) registry.bindings⟩

/-- Registers a consumer, which has a name, for channels. -/
def add (registry : Registry α) (name : String) (consumer : α) (channels : List String) :
    Except ChannelError (Registry α) :=
  if channels.isEmpty then
    .error (.configuration ("consumer " ++ name ++ " registered without any channel"))
  else
    match registry.firstTaken [] channels with
    | some channel => .error (.duplicateConsumer channel)
    | none => .ok (registry.bind consumer channels)

def summary (registry : Registry α) : String :=
  Text.record "ConsumerRegistry" [("channels", Text.quoteList registry.channels)]

end Registry

end Courier
