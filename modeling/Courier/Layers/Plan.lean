import Courier.Backend
import Courier.Data.Dict
import Courier.Json.Printer

/-!
# Plans

A plan names backends by aliases, one of them the default. For every backend it says which store it
uses, which consumer handles which of its channels, and what differs from the usual settings.
-/

namespace Courier

/-- The stores that a backend can use. -/
inductive StoreKind where
  | memory
  | redis
  deriving DecidableEq, Repr

def StoreKind.name : StoreKind → String
  | memory => "memory"
  | redis => "redis"

def StoreKind.ofName? (name : String) : Option StoreKind :=
  if name = "memory" then some .memory else if name = "redis" then some .redis else none

/-- What differs from the usual settings of a store. The times are in seconds, but for the receive
timeout, which is in milliseconds. -/
structure StoreOptions where
  capacity : Option Nat := none
  messageExpiry : Option Nat := none
  groupExpiry : Option Nat := none
  receiveTimeoutMs : Option Nat := none
  url : Option String := none
  keyBase : Option String := none
  deriving DecidableEq, Repr

namespace StoreOptions

def numberField (name : String) : Option Nat → List (String × Json)
  | none => []
  | some value => [(name, .natural value)]

def textField (name : String) : Option String → List (String × Json)
  | none => []
  | some value => [(name, .text value)]

def fields (options : StoreOptions) : List (String × Json) :=
  numberField "capacity" options.capacity ++
    numberField "message_expiry" options.messageExpiry ++
    numberField "group_expiry" options.groupExpiry ++
    numberField "receive_timeout_ms" options.receiveTimeoutMs ++
    textField "url" options.url ++ textField "key_prefix" options.keyBase

/-- The settings of a store in memory with what differs. -/
def settings (options : StoreOptions) : StoreSettings :=
  let usual : StoreSettings := {}
  { capacity := options.capacity.getD usual.capacity
    messageExpiry := options.messageExpiry.elim usual.messageExpiry Duration.ofSeconds
    groupExpiry := options.groupExpiry.elim usual.groupExpiry Duration.ofSeconds
    receiveTimeout := options.receiveTimeoutMs.elim usual.receiveTimeout Duration.ofMillis }

end StoreOptions

/-- The plan of a backend: its store, the consumer of each of its channels, and its options. -/
structure BackendPlan where
  kind : StoreKind := .memory
  routing : Dict String := .empty
  options : StoreOptions := {}
  deriving DecidableEq, Inhabited

def BackendPlan.fields (plan : BackendPlan) : List (String × Json) :=
  [("backend", .text plan.kind.name),
    ("routing", .object (plan.routing.entries.map fun route => (route.1, .text route.2)))] ++
    plan.options.fields

/-- The plan of all backends. -/
structure Plan where
  default : String
  backends : Dict BackendPlan
  deriving DecidableEq

namespace Plan

def standard : Plan := ⟨Backend.defaultLabel, Dict.empty.insert Backend.defaultLabel {}⟩

/-- Adds the plan of a backend, or replaces the one of the same alias. -/
def addBackend (plan : Plan) (label : String) (backend : BackendPlan) : Plan :=
  { plan with backends := plan.backends.insert label backend }

def toJson (plan : Plan) : Json :=
  .object
    [("default", .text plan.default),
      ("backends", .object (plan.backends.entries.map fun entry =>
        (entry.1, .object entry.2.fields)))]

def text (plan : Plan) : String := plan.toJson.render

/-- What is wrong with a plan whose default is not among its backends. -/
def missingDefault (plan : Plan) : ChannelError :=
  .configuration ("Default channel backend alias '" ++ plan.default ++ "' is not configured")

def validate (plan : Plan) : Except ChannelError Unit :=
  if plan.backends.has plan.default then .ok () else .error plan.missingDefault

end Plan

end Courier
