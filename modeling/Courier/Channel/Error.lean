/-!
# Channel errors

What can go wrong between a producer and a consumer, with its wording. Transient errors are worth
another attempt.
-/

namespace Courier

/-- Why an operation of the channel layer failed. -/
inductive ChannelError where
  | backendUnavailable (reason : String)
  | duplicateConsumer (channel : String)
  | malformedMessage (reason : String)
  | channelFull (channel : String)
  | unknownBackend (label : String)
  | configuration (reason : String)
  | serialization (reason : String)
  deriving DecidableEq, Repr

namespace ChannelError

def message : ChannelError → String
  | backendUnavailable reason => "Backend unavailable: " ++ reason
  | duplicateConsumer channel => "Consumer already registered for channel: " ++ channel
  | malformedMessage reason => "Malformed message: " ++ reason
  | channelFull channel => "Channel full: " ++ channel
  | unknownBackend label => "Unknown channel backend alias: " ++ label
  | configuration reason => "Channel configuration error: " ++ reason
  | serialization reason => "Serialization error: " ++ reason

/-- Whether another attempt may succeed. -/
def isTransient : ChannelError → Bool
  | backendUnavailable _ | channelFull _ => true
  | _ => false

/-- The reason given for a text that ends before its value begins. -/
def emptyTextReason : String := "EOF while parsing a value at line 1 column 0"

def kind : ChannelError → String
  | .backendUnavailable _ => "BackendUnavailable"
  | .duplicateConsumer _ => "DuplicateConsumer"
  | .malformedMessage _ => "MalformedMessage"
  | .channelFull _ => "ChannelFull"
  | .unknownBackend _ => "UnknownBackend"
  | .configuration _ => "Configuration"
  | .serialization _ => "Serialization"

end ChannelError

end Courier
