import Courier.Proofs.Store.History

/-!
# What a receiver that waits knows

A receiver waits only where it has looked and found nothing, and it remembers how many announcements
there had been. As long as there is no further one it need not look again: nothing can have been
sent to its channels and announced. It is the number of announcements that tells, so here is what
each operation of a store does to it.
-/

namespace Courier.Store

variable (store : Store) (now : Instant)

/-! ## Announcements -/

@[simp]
theorem announcements_putBack (channel : String) (queue : List Queued) :
    (store.putBack channel queue).announcements = store.announcements := rfl

@[simp]
theorem announcements_push (channel : String) (message : Message) :
    (store.push now channel message).2.announcements = store.announcements := by
  simp only [push]
  split <;> rfl

theorem announcements_send (channel : String) (message : Message) :
    (store.send now channel message).2.announcements =
      match (store.send now channel message).1 with
      | .ok () => store.announcements + 1
      | .error _ => store.announcements := by
  have pushed := announcements_push store now channel message
  simp only [send]
  generalize store.push now channel message = result at pushed ⊢
  rcases result with ⟨outcome, after⟩
  cases outcome with
  | ok done =>
      change after.announcements + 1 = _
      rw [pushed]
  | error error => exact pushed

@[simp]
theorem announcements_take (order : List String) :
    (store.take now order).2.announcements = store.announcements := by
  induction order generalizing store with
  | nil => rfl
  | cons channel rest ih =>
      simp only [take]
      split
      · exact ih store
      · split
        · rfl
        · rw [ih, announcements_putBack]

@[simp]
theorem announcements_receive (channels : List String) (block : Bool) :
    (store.receive now channels block).2.announcements = store.announcements := by
  rw [(receive_spec store now "" channels block).1, announcements_take]

@[simp]
theorem announcements_resume (waiting : Waiting) :
    (store.resume now waiting).2.announcements = store.announcements := by
  rcases resume_spec store now "" waiting with ⟨same, -⟩ | ⟨taken, -⟩
  · rw [same]
  · rw [taken, announcements_take]

theorem le_announcements_perform (call : Call) :
    store.announcements ≤ (store.perform now call).2.announcements := by
  cases call with
  | send channel message =>
      change _ ≤ (store.send now channel message).2.announcements
      rw [announcements_send]
      split
      · exact Nat.le_succ _
      · exact Nat.le_refl _
  | receive channels order shuffled =>
      change _ ≤ (store.receive now order false).2.announcements
      rw [announcements_receive]
  | queued channel => exact Nat.le_refl _
  | flush => exact Nat.le_refl _

/-! ## Looking in vain -/

variable {store now}

theorem filter_live_of_take_none {order : List String} (none : (store.take now order).1 = none)
    {channel : String} (listed : channel ∈ order) :
    (store.queue channel).filter (Queued.live now) = [] := by
  rcases take_spec store now order with ⟨-, silent, -⟩ | ⟨source, -, message, taken, -⟩
  · exact silent channel listed
  · rw [taken] at none
    cases none

/-- Who begins to wait has found nothing, and has heard of all announcements. -/
theorem receive_waiting {channels : List String} {block : Bool} {waiting : Waiting}
    (waits : (store.receive now channels block).1 = .waiting waiting) :
    waiting.channels = channels ∧ waiting.heard = store.announcements ∧
      ∀ channel ∈ channels, (store.queue channel).filter (Queued.live now) = [] := by
  have same := announcements_take store now channels
  have silent := @filter_live_of_take_none store now channels
  rw [receive] at waits
  split at waits
  · cases waits
  · generalize store.take now channels = looked at waits same silent
    rcases looked with ⟨_ | ⟨source, message⟩, after⟩
    · cases block with
      | false => cases waits
      | true =>
          cases waits
          exact ⟨rfl, same, fun channel listed => silent rfl listed⟩
    · cases waits

/-- Who goes on to wait has heard of no further announcement, or has looked again and found
nothing. -/
theorem resume_waiting {waiting left : Waiting}
    (waits : (store.resume now waiting).1 = .waiting left) :
    left.channels = waiting.channels ∧ left.heard = store.announcements ∧
      (waiting.heard = store.announcements ∨
        ∀ channel ∈ waiting.channels, (store.queue channel).filter (Queued.live now) = []) := by
  have same := announcements_take store now waiting.channels
  have silent := @filter_live_of_take_none store now waiting.channels
  rw [resume] at waits
  split at waits
  · rename_i heard
    split at waits
    · -- the last look at the deadline does not end in waiting
      rw [lastLook] at waits
      generalize store.take now waiting.channels = looked at waits
      rcases looked with ⟨_ | ⟨source, message⟩, after⟩
      · cases waits
      · cases waits
    · cases waits
      exact ⟨rfl, heard, Or.inl heard⟩
  · generalize store.take now waiting.channels = looked at waits same silent
    rcases looked with ⟨_ | ⟨source, message⟩, after⟩
    · dsimp only at waits
      split at waits
      · cases waits
      · cases waits
        exact ⟨rfl, same, Or.inr fun channel listed => silent rfl listed⟩
    · cases waits

theorem receive_ne_nothing {channel : String} {rest : List String} :
    (store.receive now (channel :: rest) true).1 ≠ .nothing := by
  simp only [receive, List.isEmpty_cons, Bool.false_eq_true, if_false]
  rcases store.take now (channel :: rest) with ⟨_ | ⟨source, message⟩, after⟩
  · exact Receipt.noConfusion
  · exact Receipt.noConfusion

theorem resume_nothing {waiting : Waiting}
    (nothing : (store.resume now waiting).1 = .nothing) :
    ∀ channel ∈ waiting.channels, (store.queue channel).filter (Queued.live now) = [] := by
  have silent := @filter_live_of_take_none store now waiting.channels
  intro channel listed
  apply silent _ listed
  rw [resume] at nothing
  split at nothing
  · split at nothing
    · rw [lastLook] at nothing
      generalize store.take now waiting.channels = looked at nothing
      rcases looked with ⟨_ | ⟨source, message⟩, after⟩
      · rfl
      · cases nothing
    · cases nothing
  · generalize store.take now waiting.channels = looked at nothing
    rcases looked with ⟨_ | ⟨source, message⟩, after⟩
    · rfl
    · cases nothing

/-! ## How long a receiver waits -/

/-- Who begins to wait does so for as long as receivers wait. -/
theorem deadline_of_receive {channels : List String} {block : Bool} {waiting : Waiting}
    (waits : (store.receive now channels block).1 = .waiting waiting) :
    waiting.deadline = now + store.settings.receiveTimeout := by
  have same := settings_take store now channels
  rw [receive] at waits
  split at waits
  · cases waits
  · generalize store.take now channels = looked at waits same
    rcases looked with ⟨_ | ⟨source, message⟩, after⟩
    · cases block with
      | false => cases waits
      | true =>
          cases waits
          exact congrArg (fun settings => now + settings.receiveTimeout) same
    · cases waits

/-- Who goes on to wait does so up to the same deadline, which is still to come, and who stops has
reached it. -/
theorem deadline_of_resume (store : Store) (now : Instant) (waiting : Waiting) :
    (∀ left, (store.resume now waiting).1 = .waiting left →
        left.deadline = waiting.deadline ∧ now < waiting.deadline) ∧
      ((store.resume now waiting).1 = .nothing → waiting.deadline ≤ now) := by
  rw [resume]
  split
  · split
    case isTrue late =>
      refine ⟨?_, fun _ => late⟩
      intro left waits
      rw [lastLook] at waits
      generalize store.take now waiting.channels = looked at waits
      rcases looked with ⟨_ | ⟨source, message⟩, after⟩
      · cases waits
      · cases waits
    case isFalse early =>
      refine ⟨?_, Receipt.noConfusion⟩
      rintro left ⟨⟩
      exact ⟨rfl, Nat.lt_of_not_le early⟩
  · rcases store.take now waiting.channels with ⟨_ | ⟨source, message⟩, after⟩
    · dsimp only
      split
      case isTrue late => exact ⟨fun _ => Receipt.noConfusion, fun _ => late⟩
      case isFalse early =>
        refine ⟨?_, Receipt.noConfusion⟩
        rintro left ⟨⟩
        exact ⟨rfl, Nat.lt_of_not_le early⟩
    · exact ⟨fun _ => Receipt.noConfusion, Receipt.noConfusion⟩

end Courier.Store
