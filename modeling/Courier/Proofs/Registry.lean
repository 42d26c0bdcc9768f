import Courier.Registry
import Courier.Proofs.Data.Dict

/-!
# Registries only grow

A registration is accepted if its channels are free: none of them has a consumer, and none is named
twice. It then gives each of them its consumer and leaves all others alone. So a channel that has a
consumer keeps it, however many registrations follow, and a list of bound channels never becomes
wrong.
-/

namespace Courier

namespace Registry

variable {α : Type} {registry later : Registry α} {name channel : String} {consumer : α}
  {channels : List String}

theorem mem_channels :
    channel ∈ registry.channels ↔ ∃ consumer, registry.consumer? channel = some consumer :=
  Assoc.mem_keys

theorem consumer?_bind (registry : Registry α) (consumer : α) (channels : List String)
    (channel : String) :
    (registry.bind consumer channels).consumer? channel =
      if channel ∈ channels then some consumer else registry.consumer? channel := by
  induction channels generalizing registry with
  | nil => rfl
  | cons first rest ih =>
      have step : registry.bind consumer (first :: rest) =
          Registry.bind ⟨registry.bindings.insert first consumer⟩ consumer rest := rfl
      rw [step, ih]
      by_cases later : channel ∈ rest
      · simp [later]
      · by_cases same : channel = first
        · subst same
          simp [later, consumer?]
        · simp [later, same, consumer?, Dict.find?_insert_of_ne _ same]

/-! ## Channels that are free -/

/-- Channels that can be bound together: none of them has a consumer or stands there twice. -/
structure Free (registry : Registry α) (channels : List String) : Prop where
  distinct : channels.Nodup
  unbound : ∀ channel ∈ channels, registry.consumer? channel = none

theorem free_nil (registry : Registry α) : registry.Free [] :=
  ⟨List.nodup_nil, fun _ mem => absurd mem List.not_mem_nil⟩

theorem free_cons {first : String} {rest : List String} :
    registry.Free (first :: rest) ↔
      (registry.consumer? first = none ∧ first ∉ rest) ∧ registry.Free rest := by
  constructor
  · rintro ⟨distinct, unbound⟩
    rcases List.nodup_cons.mp distinct with ⟨fresh, restDistinct⟩
    refine ⟨⟨unbound first List.mem_cons_self, fresh⟩, restDistinct, ?_⟩
    intro channel mem
    exact unbound channel (List.mem_cons_of_mem _ mem)
  · rintro ⟨⟨isUnbound, fresh⟩, distinct, unbound⟩
    refine ⟨List.nodup_cons.mpr ⟨fresh, distinct⟩, ?_⟩
    simpa using ⟨isUnbound, unbound⟩

theorem has_eq_false_iff :
    registry.bindings.has channel = false ↔ registry.consumer? channel = none := by
  simp [Dict.has, consumer?]

theorem firstTaken_cons_of_free {earlier rest : List String} {first : String}
    (free : registry.consumer? first = none ∧ first ∉ earlier) :
    registry.firstTaken earlier (first :: rest) = registry.firstTaken (first :: earlier) rest := by
  have untaken : (registry.bindings.has first || earlier.contains first) = false := by
    simpa [has_eq_false_iff] using free
  rw [firstTaken, untaken, if_neg Bool.false_ne_true]

theorem firstTaken_cons_of_taken {earlier rest : List String} {first : String}
    (bound : ¬(registry.consumer? first = none ∧ first ∉ earlier)) :
    registry.firstTaken earlier (first :: rest) = some first := by
  have taken : (registry.bindings.has first || earlier.contains first) = true := by
    rw [← Bool.not_eq_false]
    simpa [has_eq_false_iff] using bound
  rw [firstTaken, taken, if_pos rfl]

/-- No channel is taken if all of them are free and none has been named earlier. -/
theorem firstTaken_eq_none_iff {earlier : List String} :
    registry.firstTaken earlier channels = none ↔
      registry.Free channels ∧ ∀ channel ∈ channels, channel ∉ earlier := by
  induction channels generalizing earlier with
  | nil => simp [firstTaken, free_nil]
  | cons first rest ih =>
      by_cases free : registry.consumer? first = none ∧ first ∉ earlier
      · rw [firstTaken_cons_of_free free, ih, free_cons]
        constructor
        · rintro ⟨restFree, fresh⟩
          have notFirst : first ∉ rest := fun mem => fresh first mem List.mem_cons_self
          refine ⟨⟨⟨free.1, notFirst⟩, restFree⟩, ?_⟩
          simp only [List.mem_cons, forall_eq_or_imp]
          refine ⟨free.2, ?_⟩
          intro channel mem listed
          exact fresh channel mem (List.mem_cons_of_mem _ listed)
        · rintro ⟨⟨⟨-, notFirst⟩, restFree⟩, fresh⟩
          refine ⟨restFree, ?_⟩
          intro channel mem listed
          rcases List.mem_cons.mp listed with same | inEarlier
          · exact notFirst (same ▸ mem)
          · exact fresh channel (List.mem_cons_of_mem _ mem) inEarlier
      · rw [firstTaken_cons_of_taken free]
        refine iff_of_false (Option.some_ne_none _) ?_
        rintro ⟨allFree, fresh⟩
        exact free ⟨(free_cons.mp allFree).1.1, fresh first List.mem_cons_self⟩

theorem add_of_free (nonempty : channels ≠ []) (free : registry.Free channels) :
    registry.add name consumer channels = .ok (registry.bind consumer channels) := by
  have untaken : registry.firstTaken [] channels = none := by
    simpa [firstTaken_eq_none_iff] using free
  simp [add, nonempty, untaken]

theorem add_eq_ok_iff :
    registry.add name consumer channels = .ok later ↔
      (channels ≠ [] ∧ registry.Free channels) ∧ later = registry.bind consumer channels := by
  constructor
  · intro added
    rw [add] at added
    split at added
    · cases added
    · rename_i nonempty
      split at added
      · cases added
      · rename_i untaken
        cases added
        exact ⟨⟨by simpa using nonempty, (firstTaken_eq_none_iff.mp untaken).1⟩, rfl⟩
  · rintro ⟨⟨nonempty, free⟩, rfl⟩
    exact add_of_free nonempty free

/-- A channel that has a consumer keeps it. -/
theorem consumer?_of_add (added : registry.add name consumer channels = .ok later) {bound : α}
    (held : registry.consumer? channel = some bound) : later.consumer? channel = some bound := by
  rcases add_eq_ok_iff.mp added with ⟨⟨-, free⟩, rfl⟩
  rw [consumer?_bind, if_neg]
  · exact held
  · intro listed
    rw [free.unbound channel listed] at held
    cases held

end Registry

end Courier
