import Courier.Proofs.Program.Trace
import Courier.Proofs.Site
import Courier.Proofs.Store.Operations
import Mathlib.Logic.Function.Iterate

/-!
# Strands

A strand is a program on its way: it performs the actions of the program one by one, and others do
something in between. Putting a message into its queue and announcing it are two steps, and so are a
pause and its end.

A program that nobody disturbs runs up to its next pause by steps of its strand. Whatever step a
strand makes, it performs what its program wants, and the queue of every channel gets just what is
accepted on the channel.
-/

namespace Courier

/-! ## Pushing -/

namespace Backend

/-- Puts a message into the queue of a channel, unless the connection fails. -/
def push (backend : Backend) (now : Instant) (channel : String) (message : Message) :
    Except ChannelError Unit × Backend :=
  let count := backend.sends + 1
  let backend := { backend with sends := count }
  if backend.failingSends.contains count then
    (.error (.backendUnavailable ("send " ++ toString count ++ " failed")), backend)
  else
    let (result, store) := backend.store.push now channel message
    (result, { backend with store })

/-- Tells all waiting receivers that something was sent. -/
def announce (backend : Backend) : Backend := { backend with store := backend.store.announce }

variable (backend : Backend) (now : Instant) (channel : String) (message : Message)

/-- To send is to push, and to announce what was accepted. -/
theorem send_eq_push :
    backend.send now channel message =
      match backend.push now channel message with
      | (.ok (), after) => (.ok (), after.announce)
      | (.error error, after) => (.error error, after) := by
  rw [send, push]
  dsimp only
  split
  · rfl
  · rw [Store.send]
    rcases backend.store.push now channel message with ⟨_ | _, store⟩
    · rfl
    · rfl

/-- What pushing comes to: the connection fails, the message is refused, or it comes to the end of
its queue. -/
theorem push_cases :
    (∃ error after, backend.push now channel message = (.error error, after) ∧
        ∀ other, QueueStep now (backend.store.queue other) none none (after.store.queue other)) ∨
      ∃ queued after, backend.push now channel message = (.ok (), after) ∧
        queued.message = message ∧
        ∀ other, QueueStep now (backend.store.queue other)
          (if channel = other then some queued else none) none (after.store.queue other) := by
  rw [push]
  dsimp only
  split
  · exact Or.inl ⟨_, _, rfl, fun _ => .refl now _⟩
  · rcases backend.store.push_cases now channel message with
      ⟨after, refused, steps⟩ | ⟨after, accepted, steps⟩
    · rw [refused]
      exact Or.inl ⟨_, _, rfl, steps⟩
    · rw [accepted]
      exact Or.inr ⟨_, _, rfl, rfl, steps⟩

end Backend

/-! ## Strands and their steps -/

/-- A program between two steps: about to go on, about to announce a message, or waiting. -/
inductive Strand (α : Type) where
  | ready (rest : Program α)
  | announcing (rest : Program α)
  | pausing (wakeAt : Instant) (rest : Program α)

namespace Strand

variable {α : Type}

/-- What a strand has still to do. -/
def rest : Strand α → Program α
  | .ready rest | .announcing rest | .pausing _ rest => rest

/-- A strand behind an attempt to send: what was accepted is to be announced. -/
def behind (result : Except ChannelError Unit) (rest : Program α) : Strand α :=
  match result with
  | .ok () => .announcing rest
  | .error _ => .ready rest

/-- Performs the next action of a program; also gives what was performed. -/
def perform (site : Site) (now : Instant) : Program α → Strand α × Site × Trace
  | .done value => (.ready (.done value), site, [])
  | .perform (.send channel message) next =>
      let (result, backend) := site.backend.push now channel message
      (behind result (next result), { site with backend }, [⟨.send channel message, result⟩])
  | .perform (.pause duration) next =>
      (.pausing (now + duration) (next ()), site, [⟨.pause duration, ()⟩])
  | .perform action next =>
      let (answer, site) := site.perform now action
      (.ready (next answer), site, [⟨action, answer⟩])

/-- Makes a step of a strand; also gives what was performed. -/
def step (site : Site) (now : Instant) : Strand α → Strand α × Site × Trace
  | .ready rest => perform site now rest
  | .announcing rest => (.ready rest, { site with backend := site.backend.announce }, [])
  | .pausing wakeAt rest =>
      if wakeAt ≤ now then (.ready rest, site, []) else (.pausing wakeAt rest, site, [])

/-! ## Runs that nobody disturbs -/

/-- Makes a step of a strand on its site. -/
def advance (now : Instant) (state : Strand α × Site) : Strand α × Site :=
  let (strand, site, _) := state.1.step state.2 now
  (strand, site)

/-- The strand of a program that has come to its end or to a pause. -/
def ofProgress : Site.Progress α → Strand α
  | .finished value => .ready (.done value)
  | .paused wakeAt rest => .pausing wakeAt rest

/-- Running a program is making steps of its strand. -/
theorem exists_iterate_advance (site : Site) (now : Instant) (program : Program α) :
    ∃ count, (advance now)^[count] (.ready program, site) =
      (ofProgress (site.run now program).1, (site.run now program).2) := by
  induction program generalizing site with
  | done value => exact ⟨0, rfl⟩
  | perform action next ih =>
      cases action with
      | send channel message =>
          have sends := site.backend.send_eq_push now channel message
          have runs : site.run now (.perform (.send channel message) next) =
              { site with backend := (site.backend.send now channel message).2 }.run now
                (next (site.backend.send now channel message).1) := rfl
          have first : advance now (.ready (.perform (.send channel message) next), site) =
              (behind (site.backend.push now channel message).1
                  (next (site.backend.push now channel message).1),
                { site with backend := (site.backend.push now channel message).2 }) := rfl
          rw [runs, sends]
          generalize site.backend.push now channel message = pushed at first
          rcases pushed with ⟨error | _, backend⟩
          · rcases ih (.error error) { site with backend } with ⟨count, reached⟩
            refine ⟨count + 1, ?_⟩
            rw [Function.iterate_succ_apply, first]
            exact reached
          · -- one step pushes the message, and another one announces it
            rcases ih (.ok ()) { site with backend := backend.announce } with ⟨count, reached⟩
            refine ⟨count + 2, ?_⟩
            rw [Function.iterate_succ_apply, first, Function.iterate_succ_apply]
            exact reached
      | pause duration => exact ⟨1, rfl⟩
      | members _ | report _ | record _ _ | loadSession _ | saveSession _ _ | freshKey =>
          rcases ih _ _ with ⟨count, reached⟩
          exact ⟨count + 1, reached⟩

/-! ## What a step comes to -/

/-- What a step of a strand comes to: it performs what its program wants, and the queue of every
channel gets what is accepted on the channel. -/
structure Steps (site : Site) (now : Instant) (strand : Strand α)
    (next : Strand α × Site × Trace) : Prop where
  run : ∀ (program : Program α) (trace : Trace),
    Program.Run program trace strand.rest → Program.Run program (trace ++ next.2.2) next.1.rest
  registry : next.2.1.registry = site.registry
  queue : ∀ channel, ∃ added,
    QueueStep now (site.backend.store.queue channel) added none
      (next.2.1.backend.store.queue channel) ∧
    next.2.2.accepted channel = (added.map Queued.message).toList

variable {site after : Site} {now : Instant}

theorem Steps.idle {strand next : Strand α} (same : next.rest = strand.rest)
    (registry : after.registry = site.registry)
    (queues : ∀ channel, after.backend.store.queue channel = site.backend.store.queue channel) :
    Steps site now strand (next, after, []) := by
  refine ⟨?_, registry, ?_⟩
  · intro program trace run
    rw [List.append_nil, same]
    exact run
  · intro channel
    rw [queues channel]
    exact ⟨none, .refl now _, rfl⟩

theorem Steps.silent {strand next : Strand α} {performed : Performed}
    (run : ∀ (program : Program α) (trace : Trace),
      Program.Run program trace strand.rest → Program.Run program (trace ++ [performed]) next.rest)
    (noAttempt : performed.attempt? = none) (registry : after.registry = site.registry)
    (queues : ∀ channel, after.backend.store.queue channel = site.backend.store.queue channel) :
    Steps site now strand (next, after, [performed]) := by
  refine ⟨run, registry, ?_⟩
  intro channel
  rw [queues channel]
  refine ⟨none, .refl now _, ?_⟩
  simp [Trace.accepted, Trace.attempts, noAttempt]

theorem Steps.send (site : Site) (now : Instant) (target : String) (message : Message)
    (next : (Action.send target message).Answer → Program α) :
    Steps site now (.ready (.perform (.send target message) next))
      (perform site now (.perform (.send target message) next)) := by
  rcases site.backend.push_cases now target message with
    ⟨error, after, refused, steps⟩ | ⟨queued, after, accepted, isMessage, steps⟩
  · rw [perform, refused]
    refine ⟨fun _ _ run => run.snoc _, rfl, ?_⟩
    intro channel
    exact ⟨none, steps channel, Trace.accepted_send_error channel target message error⟩
  · rw [perform, accepted]
    refine ⟨fun _ _ run => run.snoc _, rfl, ?_⟩
    intro channel
    refine ⟨_, steps channel, (Trace.accepted_send_ok channel target message).trans ?_⟩
    split
    · rw [Option.map_some, isMessage]
      rfl
    · rfl

theorem steps_step (site : Site) (now : Instant) (strand : Strand α) :
    Steps site now strand (strand.step site now) := by
  cases strand with
  | announcing rest => exact Steps.idle rfl rfl fun _ => rfl
  | pausing wakeAt rest =>
      rw [step]
      split
      · exact Steps.idle rfl rfl fun _ => rfl
      · exact Steps.idle rfl rfl fun _ => rfl
  | ready rest =>
      cases rest with
      | done result => exact Steps.idle rfl rfl fun _ => rfl
      | perform action next =>
          cases action with
          | send target message => exact Steps.send site now target message next
          | members _ | pause _ | report _ | record _ _ | loadSession _ | saveSession _ _
          | freshKey => exact Steps.silent (fun _ _ run => run.snoc _) rfl rfl fun _ => rfl

end Strand

end Courier
