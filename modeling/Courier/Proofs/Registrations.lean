import Courier.Proofs.Registry

/-!
# Registrations

A consumer is registered in place. All of its channels are looked at first, and the registration
fails at the first one that has a consumer or has been named before; only then are they bound, one
after another. So a registration that fails has changed nothing.

After any number of registrations the bindings are those of the accepted ones. Every channel that is
bound was bound by one of them, and none of them has been undone.
-/

namespace Courier

/-- A consumer that is to be registered, with its name and the channels that it asks for. -/
structure Registration (α : Type) where
  name : String
  consumer : α
  channels : List String

namespace Registry

variable {α : Type} {registry later : Registry α} {registration : Registration α}
  {channel : String} {consumer : α} {channels : List String}

/-! ## The first channel that is taken -/

/-- The first of some channels that cannot be bound: those in front of it are free, and it has a
consumer or is one of them. -/
def FirstTaken (registry : Registry α) (channels : List String) (channel : String) : Prop :=
  ∃ front rest, channels = front ++ channel :: rest ∧ registry.Free front ∧
    ((∃ consumer, registry.consumer? channel = some consumer) ∨ channel ∈ front)

theorem firstTaken_eq_some_iff {earlier : List String} :
    registry.firstTaken earlier channels = some channel ↔
      ∃ front rest, channels = front ++ channel :: rest ∧
        registry.firstTaken earlier front = none ∧
        ((∃ consumer, registry.consumer? channel = some consumer) ∨ channel ∈ front ∨
          channel ∈ earlier) := by
  induction channels generalizing earlier with
  | nil => simp [firstTaken]
  | cons first others ih =>
      by_cases free : registry.consumer? first = none ∧ first ∉ earlier
      · rw [firstTaken_cons_of_free free, ih]
        constructor
        · rintro ⟨front, rest, rfl, frontUntaken, taken⟩
          refine ⟨first :: front, rest, rfl, ?_, ?_⟩
          · rw [firstTaken_cons_of_free free]
            exact frontUntaken
          · simpa [or_assoc, or_left_comm] using taken
        · rintro ⟨front, rest, split, frontUntaken, taken⟩
          cases front with
          | nil =>
              cases split
              rcases taken with ⟨consumer, held⟩ | inFront | inEarlier
              · rw [free.1] at held
                cases held
              · cases inFront
              · exact absurd inEarlier free.2
          | cons head front =>
              cases split
              rw [firstTaken_cons_of_free free] at frontUntaken
              refine ⟨front, rest, rfl, frontUntaken, ?_⟩
              simpa [or_assoc, or_left_comm] using taken
      · rw [firstTaken_cons_of_taken free]
        constructor
        · intro same
          cases same
          refine ⟨[], others, rfl, rfl, ?_⟩
          rcases Classical.not_and_iff_not_or_not.mp free with bound | named
          · exact Or.inl (Option.ne_none_iff_exists'.mp bound)
          · exact Or.inr (Or.inr (Classical.not_not.mp named))
        · rintro ⟨front, rest, split, frontUntaken, -⟩
          cases front with
          | nil =>
              cases split
              rfl
          | cons head front =>
              cases split
              rw [firstTaken_cons_of_taken free] at frontUntaken
              cases frontUntaken

theorem firstTaken_iff :
    registry.firstTaken [] channels = some channel ↔ registry.FirstTaken channels channel := by
  simp [firstTaken_eq_some_iff, firstTaken_eq_none_iff, FirstTaken]

/-- Channels are free, or there is a first one that is taken. -/
theorem not_free_iff :
    ¬registry.Free channels ↔ ∃ channel, registry.FirstTaken channels channel := by
  have untaken : registry.firstTaken [] channels = none ↔ registry.Free channels := by
    simp [firstTaken_eq_none_iff]
  rw [← untaken, ← ne_eq, Option.ne_none_iff_exists']
  exact exists_congr fun _ => firstTaken_iff

theorem not_free_iff_exists :
    ¬registry.Free channels ↔
      (∃ channel ∈ channels, ∃ consumer, registry.consumer? channel = some consumer) ∨
        ¬channels.Nodup := by
  have unbound : (∀ channel ∈ channels, registry.consumer? channel = none) ↔
      ¬∃ channel ∈ channels, ∃ consumer, registry.consumer? channel = some consumer := by
    simp [Option.eq_none_iff_forall_ne_some]
  have both : registry.Free channels ↔ channels.Nodup ∧
      ∀ channel ∈ channels, registry.consumer? channel = none :=
    ⟨fun free => ⟨free.distinct, free.unbound⟩, fun ⟨distinct, unbound⟩ => ⟨distinct, unbound⟩⟩
  rw [both, unbound, Classical.not_and_iff_not_or_not, Classical.not_not, or_comm]

/-! ## Registering in place -/

/-- Looks at channels one after another, and fails at the first that is taken. -/
def checkEach (earlier : List String) :
    List String → ExceptT ChannelError (StateM (Registry α)) Unit
  | [] => pure ()
  | channel :: rest => do
      if (← get).bindings.has channel || earlier.contains channel then
        throw (.duplicateConsumer channel)
      else
        checkEach (channel :: earlier) rest

/-- Binds channels one after another. -/
def bindEach (consumer : α) : List String → ExceptT ChannelError (StateM (Registry α)) Unit
  | [] => pure ()
  | channel :: rest => do
      modify fun registry => ⟨registry.bindings.insert channel consumer⟩
      bindEach consumer rest

/-- What is wrong with a consumer that asks for no channel. -/
def unaddressed (name : String) : ChannelError :=
  .configuration ("consumer " ++ name ++ " registered without any channel")

def enroll (registration : Registration α) :
    ExceptT ChannelError (StateM (Registry α)) Unit := do
  if registration.channels.isEmpty then
    throw (unaddressed registration.name)
  else
    checkEach [] registration.channels
    bindEach registration.consumer registration.channels

/-- Registers a consumer: the answer, and the registry behind it. -/
def register (registry : Registry α) (registration : Registration α) :
    Except ChannelError Unit × Registry α :=
  (enroll registration).run.run registry

theorem run_checkEach (registry : Registry α) (earlier channels : List String) :
    (checkEach earlier channels).run.run registry =
      match registry.firstTaken earlier channels with
      | some channel => (.error (.duplicateConsumer channel), registry)
      | none => (.ok (), registry) := by
  induction channels generalizing earlier with
  | nil => rfl
  | cons first rest ih =>
      have step : (checkEach earlier (first :: rest)).run.run registry =
          (if registry.bindings.has first || earlier.contains first then
            throw (.duplicateConsumer first)
          else checkEach (first :: earlier) rest :
            ExceptT ChannelError (StateM (Registry α)) Unit).run.run registry := rfl
      rw [step, firstTaken]
      by_cases taken : (registry.bindings.has first || earlier.contains first) = true
      · rw [if_pos taken, if_pos taken]
        rfl
      · rw [if_neg taken, if_neg taken]
        exact ih (first :: earlier)

theorem run_bindEach (registry : Registry α) (consumer : α) (channels : List String) :
    (bindEach consumer channels).run.run registry = (.ok (), registry.bind consumer channels) := by
  induction channels generalizing registry with
  | nil => rfl
  | cons first rest ih => exact ih ⟨registry.bindings.insert first consumer⟩

/-- Registering in place is all or nothing: the registry is the one with the channels added, or the
same as before. -/
theorem register_eq (registry : Registry α) (registration : Registration α) :
    registry.register registration =
      match registry.add registration.name registration.consumer registration.channels with
      | .ok later => (.ok (), later)
      | .error error => (.error error, registry) := by
  rw [register, enroll, add]
  by_cases empty : registration.channels.isEmpty = true
  · rw [if_pos empty, if_pos empty]
    rfl
  · rw [if_neg empty, if_neg empty, ExceptT.run_bind, StateT.run_bind, run_checkEach]
    cases registry.firstTaken [] registration.channels with
    | some channel => rfl
    | none => exact run_bindEach registry registration.consumer registration.channels

theorem add_eq_map (registry : Registry α) (registration : Registration α) :
    registry.add registration.name registration.consumer registration.channels =
      (registry.register registration).1.map fun _ => (registry.register registration).2 := by
  rw [register_eq]
  cases registry.add registration.name registration.consumer registration.channels with
  | ok later => rfl
  | error error => rfl

/-- What becomes of a registration: it names no channel, one of its channels is taken, or all of
them are bound. -/
inductive Registers (registry : Registry α) (registration : Registration α) :
    Except ChannelError Unit × Registry α → Prop
  | nowhere (none : registration.channels = []) :
      Registers registry registration (.error (unaddressed registration.name), registry)
  | refused {channel : String} (nonempty : registration.channels ≠ [])
      (first : registry.FirstTaken registration.channels channel) :
      Registers registry registration (.error (.duplicateConsumer channel), registry)
  | bound (nonempty : registration.channels ≠ []) (free : registry.Free registration.channels) :
      Registers registry registration
        (.ok (), registry.bind registration.consumer registration.channels)

theorem registers (registry : Registry α) (registration : Registration α) :
    registry.Registers registration (registry.register registration) := by
  rw [register_eq]
  by_cases empty : registration.channels = []
  · simp only [add, empty]
    exact .nowhere empty
  · cases taken : registry.firstTaken [] registration.channels with
    | some channel =>
        simp only [add, empty, taken, List.isEmpty_iff, if_false]
        exact .refused empty (firstTaken_iff.mp taken)
    | none =>
        have free : registry.Free registration.channels := (firstTaken_eq_none_iff.mp taken).1
        rw [add_of_free empty free]
        exact .bound empty free

/-- There is only one first channel that is taken. -/
theorem FirstTaken.unique {other : String} (first : registry.FirstTaken channels channel)
    (second : registry.FirstTaken channels other) : channel = other := by
  rw [← firstTaken_iff] at first second
  exact Option.some.inj (first.symm.trans second)

theorem FirstTaken.nonempty (first : registry.FirstTaken channels channel) : channels ≠ [] := by
  rcases first with ⟨front, rest, rfl, -⟩
  simp

namespace Registers

variable {answer : Except ChannelError Unit}

theorem nowhere_iff (outcome : registry.Registers registration (answer, later)) {reason : String} :
    answer = .error (.configuration reason) ↔
      registration.channels = [] ∧ .configuration reason = unaddressed registration.name := by
  cases outcome with
  | nowhere none => simp [none, unaddressed, eq_comm]
  | refused nonempty first => simp [nonempty]
  | bound nonempty free => simp [nonempty]

theorem refused_iff (outcome : registry.Registers registration (answer, later)) :
    answer = .error (.duplicateConsumer channel) ↔
      registry.FirstTaken registration.channels channel := by
  cases outcome with
  | nowhere none =>
      refine iff_of_false nofun ?_
      intro first
      exact first.nonempty none
  | refused nonempty first =>
      constructor
      · intro same
        cases same
        exact first
      · intro other
        rw [first.unique other]
  | bound nonempty free =>
      refine iff_of_false nofun ?_
      intro first
      exact not_free_iff.mpr ⟨channel, first⟩ free

theorem accepted_iff (outcome : registry.Registers registration (answer, later)) :
    answer = .ok () ↔ registration.channels ≠ [] ∧ registry.Free registration.channels := by
  cases outcome with
  | nowhere none => simp [none]
  | refused nonempty first =>
      refine iff_of_false nofun ?_
      rintro ⟨-, free⟩
      exact not_free_iff.mpr ⟨_, first⟩ free
  | bound nonempty free => exact iff_of_true rfl ⟨nonempty, free⟩

theorem unchanged (outcome : registry.Registers registration (answer, later))
    (failed : answer ≠ .ok ()) : later = registry := by
  cases outcome with
  | nowhere none => rfl
  | refused nonempty first => rfl
  | bound nonempty free => exact absurd rfl failed

theorem bindings (outcome : registry.Registers registration (answer, later))
    (done : answer = .ok ()) (channel : String) :
    later.consumer? channel =
      if channel ∈ registration.channels then some registration.consumer
      else registry.consumer? channel := by
  cases outcome with
  | nowhere none => cases done
  | refused nonempty first => cases done
  | bound nonempty free => exact registry.consumer?_bind _ _ channel

end Registers

/-! ## Runs -/

/-- Registers consumers one after another. -/
def registerAll (registry : Registry α) (registrations : List (Registration α)) : Registry α :=
  registrations.foldl (fun registry registration => (registry.register registration).2) registry

/-- Those of some registrations, one after another, that are accepted. -/
def accepted (registry : Registry α) : List (Registration α) → List (Registration α)
  | [] => []
  | registration :: rest =>
      match registry.register registration with
      | (.ok (), later) => registration :: later.accepted rest
      | (.error _, later) => later.accepted rest

/-- The bindings after some registrations are those from before and those of the accepted ones. -/
theorem consumer?_registerAll (registry : Registry α) (registrations : List (Registration α)) :
    (registry.registerAll registrations).consumer? channel = some consumer ↔
      registry.consumer? channel = some consumer ∨
        ∃ registration ∈ registry.accepted registrations,
          channel ∈ registration.channels ∧ registration.consumer = consumer := by
  induction registrations generalizing registry with
  | nil => simp [registerAll, accepted]
  | cons registration rest ih =>
      have step : registry.registerAll (registration :: rest) =
          (registry.register registration).2.registerAll rest := rfl
      have outcome := registry.registers registration
      rw [step, ih, accepted]
      cases answered : registry.register registration with
      | mk answer later =>
          rw [answered] at outcome
          cases outcome with
          | nowhere none => rfl
          | refused nonempty first => rfl
          | bound nonempty free =>
              rw [registry.consumer?_bind registration.consumer registration.channels channel]
              by_cases listed : channel ∈ registration.channels
              · have unbound := free.unbound channel listed
                simp [listed, unbound]
              · simp [listed]

/-! ## Main result -/

/-- Registering in place does what adding does. It fails if it names no channel, and it fails at the
first of its channels that has a consumer or is named before in it. Where it fails nothing has
changed, and otherwise exactly the channels that it names have its consumer now. After any number of
registrations a channel still has the consumer that it had, each other one has that of the accepted
registration which names it, and the channels with a consumer are listed in order and each of them
once. -/
theorem registrations_bind_all_or_nothing (registry : Registry α) :
    (∀ registration : Registration α,
      let answer := (registry.register registration).1
      let later := (registry.register registration).2
      registry.add registration.name registration.consumer registration.channels =
        answer.map (fun _ => later) ∧
      (∀ reason, answer = .error (.configuration reason) ↔
        registration.channels = [] ∧ .configuration reason = unaddressed registration.name) ∧
      (∀ channel, answer = .error (.duplicateConsumer channel) ↔
        registry.FirstTaken registration.channels channel) ∧
      ((∃ channel, answer = .error (.duplicateConsumer channel)) ↔
        (∃ channel ∈ registration.channels, ∃ consumer,
          registry.consumer? channel = some consumer) ∨ ¬registration.channels.Nodup) ∧
      (answer = .ok () ↔ registration.channels ≠ [] ∧ registry.Free registration.channels) ∧
      (answer ≠ .ok () → later = registry) ∧
      (answer = .ok () → ∀ channel, later.consumer? channel =
        if channel ∈ registration.channels then some registration.consumer
        else registry.consumer? channel)) ∧
    ∀ registrations : List (Registration α),
      let later := registry.registerAll registrations
      (∀ channel consumer, registry.consumer? channel = some consumer →
        later.consumer? channel = some consumer) ∧
      (∀ channel consumer, later.consumer? channel = some consumer ↔
        registry.consumer? channel = some consumer ∨
          ∃ registration ∈ registry.accepted registrations,
            channel ∈ registration.channels ∧ registration.consumer = consumer) ∧
      later.channels.Pairwise (· < ·) ∧
      ∀ channel, channel ∈ later.channels ↔
        ∃ consumer, later.consumer? channel = some consumer := by
  refine ⟨?_, ?_⟩
  · intro registration answer later
    have outcome : registry.Registers registration (answer, later) :=
      registry.registers registration
    have refused : (∃ channel, answer = .error (.duplicateConsumer channel)) ↔
        ¬registry.Free registration.channels := by
      rw [not_free_iff]
      exact exists_congr fun _ => outcome.refused_iff
    exact ⟨add_eq_map registry registration, fun _ => outcome.nowhere_iff,
      fun _ => outcome.refused_iff, refused.trans not_free_iff_exists, outcome.accepted_iff,
      outcome.unchanged, outcome.bindings⟩
  · intro registrations later
    refine ⟨?_, ?_, later.bindings.sorted_keys, fun _ => mem_channels⟩
    · intro channel consumer held
      exact (registry.consumer?_registerAll registrations).mpr (Or.inl held)
    · intro channel consumer
      exact registry.consumer?_registerAll registrations

end Registry

end Courier
