import Courier.Proofs.Worker.Accounts
import Mathlib.Data.List.Basic

/-!
# Messages are handed over once

What the accounts of a workshop come to. Every accepted message is handed over at most once, over all
workers together, to the consumer that is bound to its channel; nothing that a turn has taken is
dropped; what nobody has bound stays in its queue, and a look that fails leaves all queues alone; and
the tally of each worker balances.
-/

namespace Courier

open Socket (under)

/-- The message of a job that a turn has handed over, with its channel. -/
def Handover.ofTurn? (handover : Handover) : Option (String × Message) :=
  if handover.direct then none else some (handover.channel, handover.message)

namespace Workshop

variable {owner : Nat → Nat} {workshop : Workshop}

/-- The messages that turns have handed over, with their channels. -/
def handedOver (workshop : Workshop) : List (String × Message) :=
  workshop.handovers.filterMap Handover.ofTurn?

/-- What a workshop owes to its senders and its workers. -/
structure Accounted (owner : Nat → Nat) (workshop : Workshop) : Prop where
  /-- Counted with their repetitions, the messages that turns have handed over are among those that
  were accepted, each under its own channel. -/
  once : workshop.handedOver.Subperm workshop.accepted
  bound : ∀ handover ∈ workshop.handovers,
    workshop.site.registry.consumer? handover.channel = some handover.consumer
  /-- No job was handed over twice, and every job of a turn that has gone on was handed over. -/
  apart : (workshop.handovers.map Handover.job).Nodup
  given : ∀ (number : Nat) job, workshop.jobs[number]? = some job → job.direct = false →
    job.stage ≠ .taken →
      ∃ consumer, ⟨number, job.direct, job.channel, job.message, consumer⟩ ∈ workshop.handovers
  kept : ∀ job ∈ workshop.jobs, job.direct = false → job.stage ≠ .ended .dropped
  returned : ∀ entry ∈ workshop.returns, entry.2 ≠ .ok .dropped
  untouched : ∀ move : Move, move.ofWorker = true → ∀ channel,
    workshop.site.registry.consumer? channel = none →
      (workshop.move owner move).queue channel = workshop.queue channel
  failing : ∀ thread channels order block error backend,
    workshop.threads thread = .informed channels → order.Perm channels →
    workshop.site.backend.receive workshop.now order block = (.error error, backend) →
      let after := workshop.move owner (.look thread order block)
      after.site.backend.store = workshop.site.backend.store ∧ after.jobs = workshop.jobs ∧
        after.returns = workshop.returns ++ [(thread, .error error)]
  /-- Each message that came by a turn or directly counts once as processed, failed or dropped, when
  its consumer has come to an end. -/
  balanced : ∀ worker,
    (workshop.tallies worker).received + workshop.jobs.countP (Job.cameBy worker true) =
      (workshop.tallies worker).processed + (workshop.tallies worker).failed +
        (workshop.tallies worker).dropped + workshop.jobs.countP (Job.underwayBy worker)
  settled : ∀ worker, (∀ thread, owner thread = worker → workshop.Jobless thread) →
    workshop.jobs.countP (Job.underwayBy worker) = 0

namespace Sound

variable (sound : Sound owner workshop)

include sound in
/-- From each channel messages are taken in the order of their acceptance. -/
theorem taken_sublist (channel : String) :
    (under channel workshop.taken).Sublist (under channel workshop.accepted) := by
  rcases sound.books channel with ⟨ledger, books⟩
  rw [books.received, books.accepted, List.map_append]
  exact ledger.delivered_sublist.trans (List.sublist_append_left _ _)

include sound in
theorem handedOver_subperm_taken : workshop.handedOver.Subperm workshop.taken := by
  have byNumber : workshop.handedOver = (workshop.handovers.map Handover.job).filterMap
      fun number => workshop.jobs[number]?.bind Job.taken? := by
    rw [handedOver, List.filterMap_map]
    apply List.filterMap_congr
    intro handover mem
    rcases sound.handed handover mem with ⟨job, found, -, direct, channel, message, -⟩
    simp [Handover.ofTurn?, Job.taken?, found, direct, channel, message]
  have allNumbers : workshop.taken = (List.range workshop.jobs.length).filterMap
      fun number => workshop.jobs[number]?.bind Job.taken? := by
    conv => lhs; rw [taken, ← filterMap_range workshop.jobs, List.filterMap_filterMap]
  -- the numbers of the jobs that were handed over are distinct
  have numbers : (workshop.handovers.map Handover.job).Subperm
      (List.range workshop.jobs.length) := by
    apply List.subperm_of_subset sound.once
    intro number mem
    rcases List.mem_map.mp mem with ⟨handover, handed, rfl⟩
    rcases sound.handed handover handed with ⟨job, found, -⟩
    exact List.mem_range.mpr (List.getElem?_eq_some_iff.mp found).1
  rcases numbers with ⟨some, perm, sublist⟩
  rw [byNumber, allNumbers]
  exact ⟨_, perm.filterMap _, sublist.filterMap _⟩

include sound in
theorem settled {worker : Nat}
    (resting : ∀ thread, owner thread = worker → workshop.Jobless thread) :
    workshop.jobs.countP (Job.underwayBy worker) = 0 := by
  rw [List.countP_eq_zero]
  intro job mem underway
  rcases List.mem_iff_getElem?.mp mem with ⟨number, found⟩
  simp only [Job.underwayBy, Bool.decide_and, Bool.and_eq_true, decide_eq_true_eq] at underway
  rcases sound.attended number job found underway.2 with ⟨thread, working⟩
  rcases sound.working thread number working with ⟨held, there, own⟩
  rw [found] at there
  cases there
  exact resting thread (own.symm.trans underway.1) number working

end Sound

/-! ## Queues that workers leave alone -/

theorem queue_accept (thread : Nat) (backend : Backend) (receipt : Receipt) (channel : String) :
    ((workshop.withBackend backend).accept owner thread receipt).queue channel =
      backend.store.queue channel := by
  cases receipt <;> rfl

theorem queue_look {thread : Nat} {order : List String} {channel : String}
    (elsewhere : channel ∉ order) (block : Bool) :
    (workshop.look owner thread order block).queue channel = workshop.queue channel := by
  rw [look]
  cases workshop.threads thread with
  | idle | working _ => rfl
  | informed channels =>
      dsimp only
      rcases workshop.site.backend.receive_reaches_or_fails workshop.now order block with
        reached | ⟨error, failed⟩
      · rw [reached]
        dsimp only
        rw [queue_accept]
        exact Store.queue_receive_of_not_mem _ _ elsewhere block
      · rw [failed]
        rfl
  | waiting left =>
      dsimp only
      rw [queue_accept]
      apply Store.queue_resume_of_not_mem
      exact elsewhere

theorem queue_settle (thread number : Nat) (job : Job) (result : TurnResult) (channel : String) :
    (workshop.settle owner thread number job result).queue channel = workshop.queue channel := rfl

/-- Workers look only where somebody has bound a consumer. -/
theorem queue_move_of_unbound (sound : Sound owner workshop) {move : Move}
    (ofWorker : move.ofWorker = true) {channel : String}
    (unbound : workshop.site.registry.consumer? channel = none) :
    (workshop.move owner move).queue channel = workshop.queue channel := by
  cases move with
  | wait _ | push _ _ | announce | register _ _ | elsewhere _ _ _ _ _ => cases ofWorker
  | start thread =>
      simp only [Workshop.move, start]
      cases workshop.threads thread with
      | idle =>
          dsimp only
          split <;> rfl
      | informed _ | waiting _ | working _ => rfl
  | direct thread target message =>
      simp only [Workshop.move]
      cases workshop.threads thread <;> rfl
  | look thread order block =>
      simp only [Workshop.move]
      split
      · rename_i perm
        apply queue_look
        intro listed
        rcases sound.listed thread channel (perm.mem_iff.mp listed) with ⟨consumer, bound⟩
        rw [unbound] at bound
        cases bound
      · rfl
  | hand thread =>
      simp only [Workshop.move]
      split
      · rw [hand]
        split <;> rfl
      · rfl
  | finish thread outcome =>
      simp only [Workshop.move]
      split
      · rw [queue_settle]
        simp [queue]
      · rfl

theorem look_failing {thread : Nat} {channels order : List String} {block : Bool}
    {error : ChannelError} {backend : Backend}
    (informed : workshop.threads thread = .informed channels) (perm : order.Perm channels)
    (fails : workshop.site.backend.receive workshop.now order block = (.error error, backend)) :
    let after := workshop.move owner (.look thread order block)
    after.site.backend.store = workshop.site.backend.store ∧ after.jobs = workshop.jobs ∧
      after.returns = workshop.returns ++ [(thread, .error error)] := by
  have moved : workshop.move owner (.look thread order block) =
      (workshop.withBackend backend).leave thread (.error error) := by
    simp only [move, look, informed, fails]
    exact if_pos perm
  rw [moved]
  refine ⟨?_, rfl, rfl⟩
  rcases workshop.site.backend.receive_reaches_or_fails workshop.now order block with
    reached | ⟨_, failed⟩
  · rw [reached] at fails
    cases fails
  · rw [failed] at fails
    cases fails
    rfl

/-! ## Every run -/

/-- Whatever workers, senders, registrations and consumers do in which order, each accepted message
is handed over at most once, to the consumer of its channel. What a turn has taken is handed over
before the turn ends, none of it is dropped, and the tallies balance. -/
theorem accounted_run (owner : Nat → Nat) (now : Instant) (label : String)
    (settings : StoreSettings) (failingSends failingReceives : List Nat)
    (registry : Registry Consumer) (moves : List Move) :
    Accounted owner
      ((opening now label settings failingSends failingReceives registry).run owner moves) := by
  have sound := (sound_opening owner now label settings failingSends failingReceives registry).run
    moves
  generalize (opening now label settings failingSends failingReceives registry).run owner moves =
    workshop at sound
  refine ⟨?_, ?_, sound.once, sound.given, ?_, sound.returned, ?_, ?_, ?_, ?_⟩
  · exact sound.handedOver_subperm_taken.trans (subperm_of_under sound.taken_sublist)
  · intro handover mem
    rcases sound.handed handover mem with ⟨_, _, _, _, _, _, bound⟩
    exact bound
  · intro job mem byTurn dropped
    rw [(sound.ended job mem).2 dropped] at byTurn
    cases byTurn
  · intro move ofWorker channel unbound
    exact queue_move_of_unbound sound ofWorker unbound
  · intro thread channels order block error backend informed perm fails
    exact look_failing informed perm fails
  · intro worker
    rw [sound.tallied]
    exact Tally.balance worker workshop.jobs fun job mem => (sound.ended job mem).1
  · intro worker resting
    exact sound.settled resting

end Workshop

end Courier
