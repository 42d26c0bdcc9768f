import Courier.Layers.Basic
import Courier.Proofs.Registry
import Mathlib.Data.List.Sort

/-!
# Building layers from plans

A plan is checked before anything is built from it: first its default, then the consumers of its
routes. A backend is then created for each alias, unless it needs another store, and gets its
consumers. They are registered one after another, each for all of its channels. The channels of a
routing table are distinct, so no two consumers ask for the same one and no registration can fail:
what is found in the registry of a backend is what its routing table says.
-/

namespace Courier

/-- A route of a plan: the messages on a channel of a backend go to a consumer. -/
structure Route where
  label : String
  channel : String
  consumer : String

/-- What is wrong with a route to a consumer that is not in the catalog. -/
def Route.unknown (route : Route) : ChannelError :=
  Layers.unknownConsumer route.label route.channel route.consumer

/-- The routes of a backend, in order of their channels. -/
def BackendPlan.routes (label : String) (plan : BackendPlan) : List Route :=
  plan.routing.entries.map fun route => ⟨label, route.1, route.2⟩

/-- All routes, in order of their backends. -/
def Plan.routes (plan : Plan) : List Route :=
  plan.backends.entries.flatMap fun entry => entry.2.routes entry.1

/-- What is wrong with a backend that needs another store. -/
def BackendPlan.unsupported (label : String) : ChannelError :=
  .configuration ("Backend '" ++ label ++ "' needs the redis-backend feature")

namespace Layers

variable {catalog : Dict Consumer} {registry : Registry Consumer} {label channel name : String}

/-! ## Checks -/

/-- The verdict on routes of which one may lead to an unknown consumer. -/
def verdict : Option Route → Except ChannelError Unit
  | none => .ok ()
  | some route => .error route.unknown

theorem checkRoutes_eq (catalog : Dict Consumer) (label : String)
    (routing : List (String × String)) :
    checkRoutes catalog label routing =
      verdict ((routing.map fun route => Route.mk label route.1 route.2).find?
        fun route => !catalog.has route.consumer) := by
  induction routing with
  | nil => rfl
  | cons route rest ih =>
      rcases route with ⟨channel, consumer⟩
      cases known : catalog.has consumer with
      | true => simpa [checkRoutes, known] using ih
      | false => simp [checkRoutes, known, verdict, Route.unknown]

theorem checkRouting_eq (catalog : Dict Consumer) (backends : List (String × BackendPlan)) :
    checkRouting catalog backends =
      verdict ((backends.flatMap fun entry => entry.2.routes entry.1).find?
        fun route => !catalog.has route.consumer) := by
  induction backends with
  | nil => rfl
  | cons entry rest ih =>
      rcases entry with ⟨label, plan⟩
      have here : checkRoutes catalog label plan.routing.entries =
          verdict ((plan.routes label).find? fun route => !catalog.has route.consumer) :=
        checkRoutes_eq catalog label plan.routing.entries
      rw [checkRouting, here, ih, List.flatMap_cons, List.find?_append]
      cases (plan.routes label).find? fun route => !catalog.has route.consumer with
      | none => rfl
      | some route => rfl

/-! ## The channels of each consumer -/

/-- The channels of a routing table that go to a consumer. -/
def channelsOf (routing : Dict String) (consumer : String) : List String :=
  (routing.entries.filter fun route => route.2 = consumer).map Prod.fst

theorem mem_channelsOf {routing : Dict String} :
    channel ∈ channelsOf routing name ↔ routing.find? channel = some name := by
  simp [channelsOf, Dict.find?_eq_some_iff]

theorem nodup_channelsOf (routing : Dict String) (name : String) :
    (channelsOf routing name).Nodup := by
  have distinct : (routing.entries.map Prod.fst).Nodup := routing.distinct
  exact distinct.sublist (List.filter_sublist.map Prod.fst)

/-- The channels are gathered under the consumers to which some of them go. -/
theorem find?_channelsByConsumer (routing : Dict String) (name : String) :
    (channelsByConsumer routing).find? name =
      if channelsOf routing name = [] then none else some (channelsOf routing name) := by
  have swapped : channelsByConsumer routing =
      (routing.entries.map Prod.swap).foldl
        (fun groups route => groups.combine route.1 [route.2] fun channels more => channels ++ more)
        .empty := by
    rw [List.foldl_map]
    rfl
  have values : Dict.valuesOf name (routing.entries.map Prod.swap) = channelsOf routing name := by
    simp [Dict.valuesOf, channelsOf, List.filter_map, Function.comp_def]
  rw [swapped, Dict.find?_foldl_gather, values]
  rfl

theorem of_mem_channelsByConsumer {routing : Dict String} {group : String × List String}
    (mem : group ∈ (channelsByConsumer routing).entries) :
    group.2 = channelsOf routing group.1 ∧ group.2 ≠ [] := by
  have found := Dict.find?_of_mem mem
  rw [find?_channelsByConsumer] at found
  split at found
  · cases found
  · rename_i nonempty
    rw [← Option.some.inj found]
    exact ⟨rfl, nonempty⟩

theorem mem_channelsByConsumer {routing : Dict String}
    (routed : routing.find? channel = some name) :
    (name, channelsOf routing name) ∈ (channelsByConsumer routing).entries := by
  have nonempty : channelsOf routing name ≠ [] :=
    List.ne_nil_of_mem (mem_channelsOf.mpr routed)
  rw [← Dict.find?_eq_some_iff, find?_channelsByConsumer, if_neg nonempty]

/-! ## Registering consumers -/

/-- Groups of channels that can be bound one after another, each to a consumer of the catalog. -/
structure Assignable (catalog : Dict Consumer) (registry : Registry Consumer)
    (groups : List (String × List String)) : Prop where
  known : ∀ group ∈ groups, catalog.has group.1 = true
  nonempty : ∀ group ∈ groups, group.2 ≠ []
  free : ∀ group ∈ groups, registry.Free group.2
  apart : groups.Pairwise fun left right => ∀ channel ∈ right.2, channel ∉ left.2

/-- The groups of a routing table have no channel in common, since each channel has one route. -/
theorem assignable_channelsByConsumer {routing : Dict String}
    (known : ∀ channel name, routing.find? channel = some name → catalog.has name = true) :
    Assignable catalog .empty (channelsByConsumer routing).entries := by
  refine ⟨?_, fun group mem => (of_mem_channelsByConsumer mem).2, ?_, ?_⟩
  · intro group mem
    rcases of_mem_channelsByConsumer mem with ⟨isAll, nonempty⟩
    rcases List.exists_mem_of_ne_nil _ nonempty with ⟨channel, inGroup⟩
    rw [isAll, mem_channelsOf] at inGroup
    exact known channel group.1 inGroup
  · intro group mem
    refine ⟨?_, fun _ _ => rfl⟩
    rw [(of_mem_channelsByConsumer mem).1]
    exact nodup_channelsOf routing group.1
  · have distinct : (channelsByConsumer routing).entries.Pairwise (fun left right =>
        left.1 ≠ right.1) := List.pairwise_map.mp (channelsByConsumer routing).distinct
    apply distinct.imp_of_mem
    intro left right leftMem rightMem differ channel inRight inLeft
    rw [(of_mem_channelsByConsumer rightMem).1, mem_channelsOf] at inRight
    rw [(of_mem_channelsByConsumer leftMem).1, mem_channelsOf, inRight] at inLeft
    exact differ (Option.some.inj inLeft).symm

/-- Registering groups that can be bound succeeds, and gives the channels of each group its
consumer. -/
theorem register_of_assignable {groups : List (String × List String)}
    (assignable : Assignable catalog registry groups) :
    ∃ later, register catalog registry groups = .ok later ∧
      (∀ group ∈ groups, ∀ channel ∈ group.2, later.consumer? channel = catalog.find? group.1) ∧
      ∀ channel, (∀ group ∈ groups, channel ∉ group.2) →
        later.consumer? channel = registry.consumer? channel := by
  induction groups generalizing registry with
  | nil => exact ⟨registry, rfl, fun _ mem => absurd mem List.not_mem_nil, fun _ _ => rfl⟩
  | cons group rest ih =>
      rcases group with ⟨name, channels⟩
      rcases List.pairwise_cons.mp assignable.apart with ⟨apart, restApart⟩
      have nonempty : channels ≠ [] := assignable.nonempty _ List.mem_cons_self
      have free : registry.Free channels := assignable.free _ List.mem_cons_self
      have known : catalog.has name = true := assignable.known _ List.mem_cons_self
      rcases Option.isSome_iff_exists.mp known with ⟨consumer, found⟩
      change catalog.find? name = some consumer at found
      have restAssignable : Assignable catalog (registry.bind consumer channels) rest := by
        refine ⟨fun other mem => assignable.known other (List.mem_cons_of_mem _ mem),
          fun other mem => assignable.nonempty other (List.mem_cons_of_mem _ mem), ?_, restApart⟩
        intro other mem
        have otherFree := assignable.free other (List.mem_cons_of_mem _ mem)
        refine ⟨otherFree.distinct, ?_⟩
        intro channel inOther
        rw [Registry.consumer?_bind, if_neg (apart other mem channel inOther)]
        exact otherFree.unbound channel inOther
      rcases ih restAssignable with ⟨later, registered, bound, others⟩
      refine ⟨later, ?_, ?_, ?_⟩
      · rw [register, found]
        simp only [Registry.add_of_free nonempty free]
        exact registered
      · intro other mem channel inOther
        rcases List.mem_cons.mp mem with first | inRest
        · cases first
          have elsewhere : ∀ other ∈ rest, channel ∉ other.2 := by
            intro other inRest also
            exact apart other inRest channel also inOther
          rw [others channel elsewhere, Registry.consumer?_bind, if_pos inOther, found]
        · exact bound other inRest channel inOther
      · intro channel elsewhere
        have notHere : channel ∉ channels := elsewhere (name, channels) List.mem_cons_self
        rw [others channel fun other mem => elsewhere other (List.mem_cons_of_mem _ mem),
          Registry.consumer?_bind, if_neg notHere]

theorem register_channelsByConsumer {routing : Dict String}
    (known : ∀ channel name, routing.find? channel = some name → catalog.has name = true) :
    ∃ registry, register catalog .empty (channelsByConsumer routing).entries = .ok registry ∧
      ∀ channel, registry.consumer? channel = (routing.find? channel).bind catalog.find? := by
  rcases register_of_assignable (assignable_channelsByConsumer known) with
    ⟨registry, registered, bound, others⟩
  refine ⟨registry, registered, ?_⟩
  intro channel
  cases routed : routing.find? channel with
  | none =>
      rw [others channel, Option.bind_none]
      · rfl
      · intro group mem inGroup
        rw [(of_mem_channelsByConsumer mem).1, mem_channelsOf, routed] at inGroup
        cases inGroup
  | some name =>
      exact bound _ (mem_channelsByConsumer routed) channel (mem_channelsOf.mpr routed)

/-! ## Creating layers -/

/-- A layer is what the plan of its backend says: a store with the settings of the plan, and for
each channel that is routed the consumer of that name, for other channels none. -/
structure Realises (catalog : Dict Consumer) (label : String) (plan : BackendPlan)
    (layer : Layer) : Prop where
  backend : layer.backend = .inMemory label plan.options.settings
  consumers : ∀ channel,
    layer.registry.consumer? channel = (plan.routing.find? channel).bind catalog.find?

theorem createLayer_of_memory {plan : BackendPlan} (memory : plan.kind = .memory)
    (known : ∀ route ∈ plan.routes label, catalog.has route.consumer = true) :
    ∃ layer, createLayer catalog label plan = .ok layer ∧ Realises catalog label plan layer := by
  have routed : ∀ channel name, plan.routing.find? channel = some name →
      catalog.has name = true := by
    intro channel name found
    exact known ⟨label, channel, name⟩ (List.mem_map.mpr ⟨_, Dict.find?_eq_some_iff.mp found, rfl⟩)
  rcases register_channelsByConsumer routed with ⟨registry, registered, consumers⟩
  have created : createBackend label plan = .ok (.inMemory label plan.options.settings) := by
    rw [createBackend, memory]
  refine ⟨⟨.inMemory label plan.options.settings, registry⟩, ?_, rfl, consumers⟩
  rw [createLayer, created]
  simp only [registered]

theorem createLayer_of_redis {plan : BackendPlan} (redis : plan.kind = .redis) :
    createLayer catalog label plan = .error (BackendPlan.unsupported label) := by
  have refused : createBackend label plan = .error (BackendPlan.unsupported label) := by
    rw [createBackend, redis]
    rfl
  rw [createLayer, refused]

/-- Where all stores are in memory, every backend is created, and none that was made is lost. -/
theorem createAll_of_memory {made : Dict Layer} {backends : List (String × BackendPlan)}
    (distinct : Assoc.Distinct backends)
    (memory : ∀ entry ∈ backends, entry.2.kind = .memory)
    (known : ∀ entry ∈ backends, ∀ route ∈ entry.2.routes entry.1,
      catalog.has route.consumer = true) :
    ∃ layers, (createAll catalog made backends).1 = .ok layers ∧
      (∀ entry ∈ backends, ∃ layer, layers.find? entry.1 = some layer ∧
        Realises catalog entry.1 entry.2 layer) ∧
      ∀ label, label ∉ Assoc.keys backends → layers.find? label = made.find? label := by
  induction backends generalizing made with
  | nil => exact ⟨made, rfl, fun _ mem => absurd mem List.not_mem_nil, fun _ _ => rfl⟩
  | cons entry rest ih =>
      rcases entry with ⟨label, plan⟩
      rcases List.nodup_cons.mp distinct with ⟨fresh, restDistinct⟩
      rcases createLayer_of_memory (memory _ List.mem_cons_self) (known _ List.mem_cons_self) with
        ⟨layer, created, realised⟩
      rcases @ih (made.insert label layer) restDistinct
          (fun other mem => memory other (List.mem_cons_of_mem _ mem))
          (fun other mem => known other (List.mem_cons_of_mem _ mem)) with
        ⟨layers, createdAll, each, others⟩
      refine ⟨layers, ?_, ?_, ?_⟩
      · simp only [createAll, created]
        exact createdAll
      · intro other mem
        rcases List.mem_cons.mp mem with first | inRest
        · cases first
          refine ⟨layer, ?_, realised⟩
          rw [others label fresh, Dict.find?_insert_self]
        · exact each other inRest
      · intro other elsewhere
        simp only [Assoc.keys, List.map_cons, List.mem_cons, not_or] at elsewhere
        rw [others other elsewhere.2, Dict.find?_insert_of_ne _ elsewhere.1]

/-- The first backend that needs another store ends the building. -/
theorem createAll_of_redis {made : Dict Layer} {backends : List (String × BackendPlan)}
    (known : ∀ entry ∈ backends, ∀ route ∈ entry.2.routes entry.1,
      catalog.has route.consumer = true) {entry : String × BackendPlan}
    (first : backends.find? (fun entry => entry.2.kind = .redis) = some entry) :
    (createAll catalog made backends).1 = .error (BackendPlan.unsupported entry.1) := by
  induction backends generalizing made with
  | nil => cases first
  | cons head rest ih =>
      rcases head with ⟨label, plan⟩
      cases kind : plan.kind with
      | redis =>
          simp only [List.find?_cons, kind, decide_true, Option.some.injEq] at first
          subst first
          simp only [createAll, createLayer_of_redis kind]
      | memory =>
          simp only [List.find?_cons, kind, reduceCtorEq, decide_false] at first
          rcases createLayer_of_memory kind (known _ List.mem_cons_self) with ⟨layer, created, -⟩
          simp only [createAll, created]
          exact ih (fun other mem => known other (List.mem_cons_of_mem _ mem)) first

/-! ## Building -/

variable {plan : Plan}

/-- A plan from which layers can be built: its default is among its backends, its routes lead to
consumers of the catalog, and its stores are in memory. -/
structure Sound (catalog : Dict Consumer) (plan : Plan) : Prop where
  configured : plan.backends.has plan.default = true
  known : ∀ route ∈ plan.routes, catalog.has route.consumer = true
  memory : ∀ entry ∈ plan.backends.entries, entry.2.kind = .memory

theorem build_of_unconfigured (absent : plan.backends.has plan.default ≠ true) :
    build plan catalog = (.error plan.missingDefault, []) := by
  have refused : plan.validate = .error plan.missingDefault := if_neg absent
  simp only [build, refused]

theorem build_of_unknown {route : Route} (configured : plan.backends.has plan.default = true)
    (first : plan.routes.find? (fun route => !catalog.has route.consumer) = some route) :
    build plan catalog = (.error route.unknown, []) := by
  have accepted : plan.validate = .ok () := if_pos configured
  have refused : checkRouting catalog plan.backends.entries = .error route.unknown := by
    rw [Plan.routes] at first
    rw [checkRouting_eq, first]
    rfl
  simp only [build, accepted, refused]

theorem build_of_checked (configured : plan.backends.has plan.default = true)
    (known : ∀ route ∈ plan.routes, catalog.has route.consumer = true) :
    (build plan catalog).1 =
      (createAll catalog .empty plan.backends.entries).1.map (⟨plan.default, ·⟩) := by
  have accepted : plan.validate = .ok () := if_pos configured
  have checked : checkRouting catalog plan.backends.entries = .ok () := by
    have none : plan.routes.find? (fun route => !catalog.has route.consumer) = none := by
      simpa [List.find?_eq_none] using known
    rw [Plan.routes] at none
    rw [checkRouting_eq, none]
    rfl
  simp only [build, accepted, checked]

theorem known_of_routes (known : ∀ route ∈ plan.routes, catalog.has route.consumer = true) :
    ∀ entry ∈ plan.backends.entries, ∀ route ∈ entry.2.routes entry.1,
      catalog.has route.consumer = true := by
  intro entry mem route inRoutes
  exact known route (List.mem_flatMap.mpr ⟨entry, mem, inRoutes⟩)

theorem build_of_unsupported {entry : String × BackendPlan}
    (configured : plan.backends.has plan.default = true)
    (known : ∀ route ∈ plan.routes, catalog.has route.consumer = true)
    (first : List.find? (fun entry => entry.2.kind = .redis) plan.backends.entries = some entry) :
    (build plan catalog).1 = .error (BackendPlan.unsupported entry.1) := by
  rw [build_of_checked configured known, createAll_of_redis (known_of_routes known) first]
  rfl

/-- Layers are what a plan says: there is one for each of its backends, and no other. -/
structure Mirrors (catalog : Dict Consumer) (plan : Plan) (layers : Layers) : Prop where
  default : layers.default = plan.default
  present : ∀ label backend, plan.backends.find? label = some backend →
    ∃ layer, layers.layers.find? label = some layer ∧ Realises catalog label backend layer
  absent : ∀ label, plan.backends.find? label = none → layers.layers.find? label = none

theorem build_of_sound (sound : Sound catalog plan) :
    ∃ layers, (build plan catalog).1 = .ok layers ∧ Mirrors catalog plan layers := by
  rcases @createAll_of_memory catalog .empty plan.backends.entries plan.backends.distinct
      sound.memory (known_of_routes sound.known) with ⟨layers, created, each, others⟩
  refine ⟨⟨plan.default, layers⟩, ?_, rfl, ?_, ?_⟩
  · rw [build_of_checked sound.configured sound.known, created]
    rfl
  · intro label backend found
    exact each _ (Dict.find?_eq_some_iff.mp found)
  · intro label absent
    apply others label
    intro mem
    rcases Assoc.mem_keys.mp mem with ⟨backend, found⟩
    rw [Dict.find?, found] at absent
    cases absent

namespace Mirrors

variable {layers : Layers}

theorem find?_iff (mirrors : Mirrors catalog plan layers) :
    (∃ layer, layers.layers.find? label = some layer) ↔
      ∃ backend, plan.backends.find? label = some backend := by
  constructor
  · rintro ⟨layer, found⟩
    cases planned : plan.backends.find? label with
    | some backend => exact ⟨backend, rfl⟩
    | none =>
        rw [mirrors.absent label planned] at found
        cases found
  · rintro ⟨backend, planned⟩
    rcases mirrors.present label backend planned with ⟨layer, found, -⟩
    exact ⟨layer, found⟩

theorem aliases_eq (mirrors : Mirrors catalog plan layers) :
    layers.aliases = plan.backends.keys := by
  apply layers.layers.sorted_keys.eq_of_mem_iff plan.backends.sorted_keys
  intro label
  rw [Dict.mem_keys, Dict.mem_keys]
  exact mirrors.find?_iff

theorem get_iff (mirrors : Mirrors catalog plan layers) :
    (∃ layer, layers.get label = .ok layer) ↔ plan.backends.has label = true := by
  rw [Dict.has, Option.isSome_iff_exists, ← mirrors.find?_iff]
  cases found : layers.layers.find? label with
  | none => simp [get, found]
  | some layer => simp [get, found]

theorem realises_of_get (mirrors : Mirrors catalog plan layers) {layer : Layer}
    (found : layers.get label = .ok layer) :
    ∃ backend, plan.backends.find? label = some backend ∧ Realises catalog label backend layer := by
  rw [get] at found
  split at found
  · rename_i isLayer
    cases found
    rcases mirrors.find?_iff.mp ⟨layer, isLayer⟩ with ⟨backend, planned⟩
    rcases mirrors.present label backend planned with ⟨other, same, realises⟩
    rw [isLayer] at same
    cases same
    exact ⟨backend, planned, realises⟩
  · cases found

end Mirrors

/-- Where something is wrong with a plan, building fails, but never because of two consumers. -/
theorem exists_error_of_not_sound (flawed : ¬Sound catalog plan) :
    ∃ error, (build plan catalog).1 = .error error ∧
      ∀ channel, error ≠ .duplicateConsumer channel := by
  by_cases configured : plan.backends.has plan.default = true
  · cases unknown : plan.routes.find? (fun route => !catalog.has route.consumer) with
    | some route =>
        refine ⟨_, congrArg Prod.fst (build_of_unknown configured unknown), ?_⟩
        exact fun _ => nofun
    | none =>
        have known : ∀ route ∈ plan.routes, catalog.has route.consumer = true := by
          simpa [List.find?_eq_none] using unknown
        cases redis : List.find? (fun entry => entry.2.kind = .redis) plan.backends.entries with
        | some entry =>
            refine ⟨_, build_of_unsupported configured known redis, ?_⟩
            exact fun _ => nofun
        | none =>
            exfalso
            apply flawed
            refine ⟨configured, known, ?_⟩
            intro entry mem
            have notRedis := List.find?_eq_none.mp redis entry mem
            cases kind : entry.2.kind with
            | memory => rfl
            | redis => simp [kind] at notRedis
  · refine ⟨_, congrArg Prod.fst (build_of_unconfigured configured), ?_⟩
    exact fun _ => nofun

theorem sound_of_build {layers : Layers} (built : (build plan catalog).1 = .ok layers) :
    Sound catalog plan := by
  by_contra flawed
  rcases exists_error_of_not_sound flawed with ⟨error, failed, -⟩
  cases built.symm.trans failed

theorem mirrors_of_build {layers : Layers} (built : (build plan catalog).1 = .ok layers) :
    Mirrors catalog plan layers := by
  rcases build_of_sound (sound_of_build built) with ⟨same, isSame, mirrors⟩
  cases built.symm.trans isSame
  exact mirrors

theorem build_ne_duplicateConsumer (plan : Plan) (catalog : Dict Consumer) (channel : String) :
    (build plan catalog).1 ≠ .error (.duplicateConsumer channel) := by
  intro duplicate
  by_cases sound : Sound catalog plan
  · rcases build_of_sound sound with ⟨layers, built, -⟩
    cases built.symm.trans duplicate
  · rcases exists_error_of_not_sound sound with ⟨error, failed, other⟩
    exact other channel (Except.error.inj (failed.symm.trans duplicate))

/-! ## Main result -/

/-- Layers are built from a plan if its default is among its backends, its routes lead to consumers
of the catalog and its stores are in memory. Otherwise the first of these that does not hold is
reported, the first two before anything is built, and it is never reported that a channel has two
consumers. The layers have the aliases of the plan, and the consumer of a channel in a layer is the
one to which the plan routes it. -/
theorem layers_realise_plans (plan : Plan) (catalog : Dict Consumer) :
    let built := (build plan catalog).1
    let configured := plan.backends.has plan.default = true
    let known := ∀ route ∈ plan.routes, catalog.has route.consumer = true
    ((∃ layers, built = .ok layers) ↔
      configured ∧ known ∧ ∀ entry ∈ plan.backends.entries, entry.2.kind = .memory) ∧
    (∀ channel, built ≠ .error (.duplicateConsumer channel)) ∧
    (¬configured → build plan catalog = (.error plan.missingDefault, [])) ∧
    (configured → ∀ route,
      plan.routes.find? (fun route => !catalog.has route.consumer) = some route →
        build plan catalog = (.error route.unknown, [])) ∧
    (configured → known → ∀ entry,
      List.find? (fun entry => entry.2.kind = .redis) plan.backends.entries = some entry →
        built = .error (BackendPlan.unsupported entry.1)) ∧
    ∀ layers, built = .ok layers →
      layers.default = plan.default ∧
      layers.aliases = plan.backends.keys ∧ layers.aliases.Pairwise (· < ·) ∧
      (∀ label, (∃ layer, layers.get label = .ok layer) ↔ plan.backends.has label = true) ∧
      ∀ label layer, layers.get label = .ok layer →
        ∃ backend, plan.backends.find? label = some backend ∧
          layer.backend = .inMemory label backend.options.settings ∧
          ∀ channel, layer.registry.consumer? channel =
            (backend.routing.find? channel).bind catalog.find? := by
  intro built configured known
  refine ⟨⟨?_, ?_⟩, build_ne_duplicateConsumer plan catalog, build_of_unconfigured,
    fun isConfigured _ => build_of_unknown isConfigured,
    fun isConfigured isKnown _ => build_of_unsupported isConfigured isKnown, ?_⟩
  · rintro ⟨layers, isBuilt⟩
    have sound : Sound catalog plan := sound_of_build isBuilt
    exact ⟨sound.configured, sound.known, sound.memory⟩
  · rintro ⟨isConfigured, isKnown, memory⟩
    rcases build_of_sound ⟨isConfigured, isKnown, memory⟩ with ⟨layers, isBuilt, -⟩
    exact ⟨layers, isBuilt⟩
  · intro layers isBuilt
    have mirrors : Mirrors catalog plan layers := mirrors_of_build isBuilt
    refine ⟨mirrors.default, mirrors.aliases_eq, layers.layers.sorted_keys,
      fun _ => mirrors.get_iff, ?_⟩
    intro label layer found
    rcases mirrors.realises_of_get found with ⟨backend, planned, realises⟩
    exact ⟨backend, planned, realises.backend, realises.consumers⟩

end Layers

end Courier
