import Courier.Proofs.Data.Dict
import Courier.Proofs.Store.Operations

/-!
# The members of groups

What is found under a channel in a group after an operation of a store. Members whose time is over
are left out wherever a group is listed, and they are dropped then, but only then, so a group may
hold members that nobody sees any more. What is done to queues leaves the groups alone, and what is
done to groups leaves the queues alone.
-/

namespace Courier.Store

variable (store : Store) (now : Instant) (group channel : String)

/-! ## Storing groups -/

@[simp]
theorem queue_putGroup (members : Dict Instant) (other : String) :
    (store.putGroup group members).queue other = store.queue other := rfl

@[simp]
theorem settings_putGroup (members : Dict Instant) :
    (store.putGroup group members).settings = store.settings := rfl

@[simp]
theorem group_putGroup_self (members : Dict Instant) :
    (store.putGroup group members).group group = members := by
  simp only [putGroup, Store.group]
  split
  · rename_i isEmpty
    rw [Assoc.find?_erase_self, Dict.eq_empty_of_isEmpty isEmpty]
    rfl
  · rw [Assoc.find?_insert_self]
    rfl

theorem group_putGroup_of_ne {other : String} (differ : other ≠ group) (members : Dict Instant) :
    (store.putGroup group members).group other = store.group other := by
  simp only [putGroup, Store.group]
  split
  · rw [Assoc.find?_erase_of_ne _ differ]
  · rw [Assoc.find?_insert_of_ne _ _ differ]

/-! ## Joining and leaving -/

theorem find?_join_self :
    ((store.join now group channel).group group).find? channel =
      some (now + store.settings.groupExpiry) := by
  rw [join, group_putGroup_self, Dict.find?_insert_self]

theorem find?_leave_self : ((store.leave group channel).group group).find? channel = none := by
  rw [leave, group_putGroup_self, Dict.find?_erase_self]

variable {group channel}

theorem find?_join_of_ne {other member : String} (differ : ¬(group = other ∧ channel = member)) :
    ((store.join now group channel).group other).find? member =
      (store.group other).find? member := by
  rw [join]
  by_cases same : other = group
  · subst same
    have otherMember : member ≠ channel := fun same => differ ⟨rfl, same.symm⟩
    rw [group_putGroup_self, Dict.find?_insert_of_ne _ otherMember]
  · rw [group_putGroup_of_ne store group same]

theorem find?_leave_of_ne {other member : String} (differ : ¬(group = other ∧ channel = member)) :
    ((store.leave group channel).group other).find? member =
      (store.group other).find? member := by
  rw [leave]
  by_cases same : other = group
  · subst same
    have otherMember : member ≠ channel := fun same => differ ⟨rfl, same.symm⟩
    rw [group_putGroup_self, Dict.find?_erase_of_ne _ otherMember]
  · rw [group_putGroup_of_ne store group same]

/-! ## Listing -/

theorem mem_members :
    channel ∈ (store.members now group).1 ↔
      ∃ endsAt, (store.group group).find? channel = some endsAt ∧ now < endsAt := by
  simp only [members, Dict.mem_keys, Dict.find?_filter, Option.filter_eq_some_iff,
    decide_eq_true_eq]

variable (group) in
theorem sorted_members : (store.members now group).1.Pairwise (· < ·) := Dict.sorted_keys _

variable (group) in
/-- Listing a group drops at most members whose time is over. -/
theorem find?_members (other member : String) :
    ((store.members now group).2.group other).find? member = (store.group other).find? member ∨
      ((store.members now group).2.group other).find? member = none ∧
        ∃ endsAt, (store.group other).find? member = some endsAt ∧ endsAt ≤ now := by
  simp only [members]
  by_cases same : other = group
  · subst same
    rw [group_putGroup_self, Dict.find?_filter]
    cases found : (store.group other).find? member with
    | none => exact Or.inl rfl
    | some endsAt =>
        by_cases live : now < endsAt
        · exact Or.inl (Option.filter_some_pos (decide_eq_true live))
        · refine Or.inr ⟨?_, endsAt, rfl, Nat.not_lt.mp live⟩
          exact Option.filter_some_neg (by simpa using live)
  · rw [group_putGroup_of_ne store group same]
    exact Or.inl rfl

/-! ## What is done to queues -/

variable (channel) (message : Message) (other : String)

@[simp]
theorem group_push : (store.push now channel message).2.group other = store.group other := by
  simp only [push]
  split <;> rfl

@[simp]
theorem group_send : (store.send now channel message).2.group other = store.group other := by
  have pushed := group_push store now channel message other
  rw [send]
  generalize store.push now channel message = outcome at pushed ⊢
  rcases outcome with ⟨_ | _, after⟩
  · exact pushed
  · exact pushed

@[simp]
theorem group_take (order : List String) :
    (store.take now order).2.group other = store.group other := by
  induction order generalizing store with
  | nil => rfl
  | cons channel rest ih =>
      simp only [take]
      split
      · exact ih store
      · split
        · rfl
        · rw [ih]
          rfl

@[simp]
theorem group_receive (channels : List String) (block : Bool) :
    (store.receive now channels block).2.group other = store.group other := by
  rw [(receive_spec store now "" channels block).1, group_take]

@[simp]
theorem group_resume (waiting : Waiting) :
    (store.resume now waiting).2.group other = store.group other := by
  rcases resume_spec store now "" waiting with ⟨same, -⟩ | ⟨taken, -⟩
  · rw [same]
  · rw [taken, group_take]

end Courier.Store
