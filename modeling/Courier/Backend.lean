import Courier.Store.Receiving
import Courier.Text.Quoted

/-!
# Backends

A store under the label by which it is addressed. The connection to it may fail: certain calls,
counted from one, are refused before they reach the store.
-/

namespace Courier

/-- A store under a label, with the calls that fail. -/
structure Backend where
  label : String
  store : Store
  failingSends : List Nat := []
  failingReceives : List Nat := []
  sends : Nat := 0
  receives : Nat := 0
  deriving Inhabited

namespace Backend

/-- The label of a backend that is given no other. -/
def defaultLabel : String := "default"

def inMemory (label : String) (settings : StoreSettings) : Backend :=
  { label, store := { settings } }

/-- Whether other processes cannot see what is in the backend. -/
def isLocal (_ : Backend) : Bool := true

def send (backend : Backend) (now : Instant) (channel : String) (message : Message) :
    Except ChannelError Unit × Backend :=
  let count := backend.sends + 1
  let backend := { backend with sends := count }
  if backend.failingSends.contains count then
    (.error (.backendUnavailable ("send " ++ toString count ++ " failed")), backend)
  else
    let (result, store) := backend.store.send now channel message
    (result, { backend with store })

/-- Starts to receive from channels, unless this call fails. -/
def receive (backend : Backend) (now : Instant) (channels : List String) (block : Bool) :
    Except ChannelError Receipt × Backend :=
  let count := backend.receives + 1
  let backend := { backend with receives := count }
  if backend.failingReceives.contains count then
    (.error (.backendUnavailable ("receive " ++ toString count ++ " failed")), backend)
  else
    let (receipt, store) := backend.store.receive now channels block
    (.ok receipt, { backend with store })

def resume (backend : Backend) (now : Instant) (waiting : Waiting) : Receipt × Backend :=
  let (receipt, store) := backend.store.resume now waiting
  (receipt, { backend with store })

def channelSummary (backend : Backend) (channel : String) : String :=
  Text.record "Channel" [("name", Text.quote channel), ("backend", Text.quote backend.label)]

def groupSummary (backend : Backend) (group : String) : String :=
  Text.record "Group" [("name", Text.quote group), ("backend", Text.quote backend.label)]

end Backend

end Courier
