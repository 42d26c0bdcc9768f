import Courier.Demo.Catalog
import Courier.Layers.Reading
import Courier.Scenario.Bus

/-!
# Scenarios with layers

A plan is read from a source, changed, and built with a catalog of consumers; then steps are taken
on one of its backends.
-/

namespace Courier.Scenario

open Simulation (Bench)

/-- The plan of a source, if the source gives one. -/
def sourcePlan? (source : Json) : Option (Except ChannelError Plan) :=
  match source with
  | .object [("json", content)] => some (Plan.ofJsonText (text content))
  | .object [("yaml", content)] => some (Plan.ofBlockText (text content))
  | .object [("default", _)] => some (.ok .standard)
  | .object [("demo", _)] => some (.ok Demo.plan)
  | .object fields =>
      if Assoc.has fields "file" then
        some (Plan.ofFile (text (field source "file")) (field source "content").text?)
      else none
  | _ => none

/-- The layers of a source that gives no plan. -/
def sourceLayers (source : Json) : Layers :=
  match present (field source "in_memory") with
  | some settings => .inMemory (memorySettings settings)
  | none => .ofBackend (backend (field source "backend"))

/-- A plan with the described backends added and with another default. -/
def changedPlan (input : Json) (plan : Plan) : Plan :=
  let added := (items (field input "with")).foldl
    (fun (plan : Plan) (entry : Json) =>
      plan.addBackend (text (nth entry 0)) { routing := .ofPairs (pairs (nth entry 1)) })
    plan
  { added with default := (field input "default").text?.getD added.default }

def catalog (input : Json) : Dict Consumer :=
  match input with
  | .object scripts =>
      .ofPairs (scripts.map fun entry => (entry.1, (consumerScript entry.2).consumer entry.1))
  | _ => Demo.catalog {}

def layerSteps (input : Json) (layers : Layers) : List (String × Json) :=
  match present (field input "steps") with
  | none => []
  | some steps =>
      let chosen := (field input "on").text?.getD layers.default
      match layers.get chosen with
      | .error error => [("steps", channelFailure error)]
      | .ok layer =>
          let bench := Bench.ofSite { backend := layer.backend, registry := layer.registry } {}
          [("steps", .array (runSteps busStep bench (items steps)).2)]

def layersAnswer (input : Json) (layers : Layers) : List (String × Json) :=
  let shown (layer : Layer) : Json :=
    .array [.text layer.backend.label, .bool layer.backend.isLocal]
  [("aliases", textList layers.aliases), ("default", .text layers.default),
    ("debug", .text layers.summary),
    ("channels", dictJson (fun layer => textList layer.registry.channels) layers.layers),
    ("get", .array ((texts (field input "get")).map fun label =>
      wrapped shown (layers.get label)))] ++
    layerSteps input layers

def planAnswer (input : Json) (plan : Plan) : Json :=
  let written := ("config", Json.text plan.text)
  match present (field input "catalog") with
  | none => ok (.object [written])
  | some consumers =>
      match (Layers.build plan (catalog consumers)).1 with
      | .error error => ok (.object [written, ("build", channelFailure error)])
      | .ok layers => ok (.object (written :: layersAnswer input layers))

/-- The answer for a scenario with layers. -/
def layersScenario (input : Json) : Json :=
  match sourcePlan? (field input "source") with
  | some (.ok plan) => planAnswer input (changedPlan input plan)
  | some (.error error) => channelFailure error
  | none => ok (.object (layersAnswer input (sourceLayers (field input "source"))))

end Courier.Scenario
