import Courier.Backend
import Courier.Consumer
import Courier.Layers.Plan
import Courier.Log
import Courier.Registry

/-!
# Layers

The backends of a plan, each with the consumers that its routing table names. Everything that can be
wrong with a plan is found before a consumer is bound.
-/

namespace Courier

/-- A backend with the consumers of its channels. -/
structure Layer where
  backend : Backend
  registry : Registry Consumer := .empty

instance : Inhabited Layer := ⟨{ backend := default }⟩

/-- Backends by alias, one of them the default. -/
structure Layers where
  default : String
  layers : Dict Layer

namespace Layers

/-- The layers with a single backend. -/
def ofBackend (backend : Backend) : Layers :=
  ⟨backend.label, Dict.empty.insert backend.label { backend }⟩

/-- The layers with a single backend in memory. -/
def inMemory (settings : StoreSettings) : Layers :=
  ofBackend (.inMemory Backend.defaultLabel settings)

/-- What is wrong with a route to a consumer that is not in the catalog. -/
def unknownConsumer (label channel consumer : String) : ChannelError :=
  .configuration
    ("Backend '" ++ label ++ "' routes channel '" ++ channel ++ "' to unknown consumer '" ++
      consumer ++ "'")

def checkRoutes (catalog : Dict Consumer) (label : String) :
    List (String × String) → Except ChannelError Unit
  | [] => .ok ()
  | (channel, consumer) :: rest =>
      if catalog.has consumer then checkRoutes catalog label rest
      else .error (unknownConsumer label channel consumer)

def checkRouting (catalog : Dict Consumer) :
    List (String × BackendPlan) → Except ChannelError Unit
  | [] => .ok ()
  | (label, plan) :: rest =>
      match checkRoutes catalog label plan.routing.entries with
      | .error error => .error error
      | .ok () => checkRouting catalog rest

/-- The channels of each consumer of a routing table. -/
def channelsByConsumer (routing : Dict String) : Dict (List String) :=
  routing.entries.foldl
    (fun groups route => groups.combine route.2 [route.1] fun channels more => channels ++ more)
    .empty

/-- Registers consumers, each for its channels. -/
def register (catalog : Dict Consumer) (registry : Registry Consumer) :
    List (String × List String) → Except ChannelError (Registry Consumer)
  | [] => .ok registry
  | (name, channels) :: rest =>
      match catalog.find? name with
      | none => register catalog registry rest
      | some consumer =>
          match registry.add consumer.name consumer channels with
          | .error error => .error error
          | .ok registry => register catalog registry rest

def createBackend (label : String) (plan : BackendPlan) : Except ChannelError Backend :=
  match plan.kind with
  | .memory => .ok (.inMemory label plan.options.settings)
  | .redis =>
      .error (.configuration ("Backend '" ++ label ++ "' needs the redis-backend feature"))

/-- The backend of a plan with its consumers. -/
def createLayer (catalog : Dict Consumer) (label : String) (plan : BackendPlan) :
    Except ChannelError Layer :=
  match createBackend label plan with
  | .error error => .error error
  | .ok backend =>
      match register catalog .empty (channelsByConsumer plan.routing).entries with
      | .error error => .error error
      | .ok registry => .ok { backend, registry }

def ready (layer : Layer) : LogEntry :=
  .info ("Channel backend ready with channels: " ++ Text.quoteList layer.registry.channels)

/-- Creates backends one after another, and tells which became ready. -/
def createAll (catalog : Dict Consumer) (made : Dict Layer) :
    List (String × BackendPlan) → Except ChannelError (Dict Layer) × List LogEntry
  | [] => (.ok made, [])
  | (label, plan) :: rest =>
      match createLayer catalog label plan with
      | .error error => (.error error, [])
      | .ok layer =>
          let (result, entries) := createAll catalog (made.insert label layer) rest
          (result, ready layer :: entries)

/-- Creates the backends of a plan, and tells which became ready. -/
def build (plan : Plan) (catalog : Dict Consumer) :
    Except ChannelError Layers × List LogEntry :=
  match plan.validate, checkRouting catalog plan.backends.entries with
  | .error error, _ => (.error error, [])
  | .ok (), .error error => (.error error, [])
  | .ok (), .ok () =>
      let (result, entries) := createAll catalog .empty plan.backends.entries
      (result.map fun layers => ⟨plan.default, layers⟩, entries)

def get (layers : Layers) (label : String) : Except ChannelError Layer :=
  match layers.layers.find? label with
  | some layer => .ok layer
  | none => .error (.unknownBackend label)

def defaultLayer (layers : Layers) : Except ChannelError Layer := layers.get layers.default

/-- The aliases, in order. -/
def aliases (layers : Layers) : List String := layers.layers.keys

def summary (layers : Layers) : String :=
  Text.record "ChannelLayers"
    [("default", Text.quote layers.default), ("aliases", Text.quoteList layers.aliases)]

end Layers

end Courier
