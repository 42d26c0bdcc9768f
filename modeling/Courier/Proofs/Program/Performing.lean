import Courier.Proofs.Strand

/-!
# What a site performs of a program

A site that runs a program performs its actions one after another, up to the end of the program or
to its next pause. What it performs is a part of a run of the program, and the queue of every
channel gets what is accepted on the channel on the way, in order.
-/

namespace Courier

/-- A queue to which messages come one after another, and from which nothing but expired messages
goes. -/
inductive Fills (now : Instant) : List Queued → List Message → List Queued → Prop
  | refl (queue : List Queued) : Fills now queue [] queue
  | step {before between after : List Queued} {added : Option Queued} {messages : List Message}
      (first : QueueStep now before added none between) (rest : Fills now between messages after) :
      Fills now before ((added.map Queued.message).toList ++ messages) after

namespace Fills

variable {now : Instant} {before after : List Queued}

theorem of_step {added : Option Queued} (step : QueueStep now before added none after) :
    Fills now before (added.map Queued.message).toList after := by
  have fills := Fills.step step (.refl after)
  rwa [List.append_nil] at fills

theorem of_dropped (step : QueueStep now before none none after) : Fills now before [] after :=
  of_step step

theorem trans {between : List Queued} {first second : List Message}
    (early : Fills now before first between) (late : Fills now between second after) :
    Fills now before (first ++ second) after := by
  induction early with
  | refl queue => exact late
  | step first rest ih =>
      rw [List.append_assoc]
      exact .step first (ih late)

/-- Books are kept while a queue fills. -/
theorem books {accepted received messages : List Message} {ledger : Ledger}
    (fills : Fills now before messages after)
    (books : Books 0 0 now accepted received ledger before) :
    ∃ ledger, Books 0 0 now (accepted ++ messages) received ledger after := by
  induction fills generalizing accepted ledger with
  | refl queue => exact ⟨ledger, by rwa [List.append_nil]⟩
  | step first rest ih =>
      rcases books.step first fun queued _ => Nat.zero_le _ with ⟨more, kept⟩
      rw [Option.toList_none, List.append_nil] at kept
      rw [← List.append_assoc]
      exact ih kept

end Fills

namespace Site

variable {α : Type}

/-- What a program has still to do. -/
def Progress.rest : Progress α → Program α
  | .finished value => .done value
  | .paused _ rest => rest

/-- The actions that a site performs of a program. -/
def performs (site : Site) (now : Instant) : Program α → Trace
  | .done _ => []
  | .perform action next =>
      match action, next with
      | .pause duration, _ => [⟨.pause duration, ()⟩]
      | action, next =>
          let (answer, site) := site.perform now action
          ⟨action, answer⟩ :: site.performs now (next answer)

/-- One site is another one somewhat later: consumers stay registered, and the label and the
settings of the store stay the same. -/
structure Continues (before after : Site) : Prop where
  registry : ∀ channel consumer, before.registry.consumer? channel = some consumer →
    after.registry.consumer? channel = some consumer
  settings : after.backend.store.settings = before.backend.store.settings
  label : after.backend.label = before.backend.label

theorem Continues.refl (site : Site) : site.Continues site := ⟨fun _ _ bound => bound, rfl, rfl⟩

theorem Continues.trans {before between after : Site} (first : before.Continues between)
    (second : between.Continues after) : before.Continues after :=
  ⟨fun channel consumer bound =>
      second.registry channel consumer (first.registry channel consumer bound),
    second.settings.trans first.settings, second.label.trans first.label⟩

theorem Continues.of_registry {before after : Site} (registry : after.registry = before.registry)
    (settings : after.backend.store.settings = before.backend.store.settings)
    (label : after.backend.label = before.backend.label) : before.Continues after :=
  ⟨fun _ _ bound => by rwa [registry], settings, label⟩

/-- A site goes on, and the queues of its channels fill with messages. -/
structure Gets (before : Site) (now : Instant) (messages : String → List Message) (after : Site) :
    Prop where
  continues : before.Continues after
  fills : ∀ channel, Fills now (before.backend.store.queue channel) (messages channel)
    (after.backend.store.queue channel)

theorem Gets.still {before after : Site} {now : Instant} (continues : before.Continues after)
    (queues : ∀ channel,
      after.backend.store.queue channel = before.backend.store.queue channel) :
    before.Gets now (fun _ => []) after := by
  refine ⟨continues, ?_⟩
  intro channel
  rw [queues channel]
  exact .refl _

theorem gets_push (site : Site) (now : Instant) (target : String) (message : Message) :
    site.Gets now
      (fun channel =>
        ((Attempt.mk target message (site.backend.push now target message).1).accepted?
          channel).toList)
      { site with backend := (site.backend.push now target message).2 } := by
  have same : (site.backend.push now target message).2.store.settings =
      site.backend.store.settings ∧
      (site.backend.push now target message).2.label = site.backend.label := by
    rw [Backend.push]
    dsimp only
    split
    · exact ⟨rfl, rfl⟩
    · exact ⟨site.backend.store.settings_push now target message, rfl⟩
  refine ⟨.of_registry rfl same.1 same.2, ?_⟩
  intro channel
  rcases site.backend.push_cases now target message with
    ⟨error, after, refused, steps⟩ | ⟨queued, after, accepted, isMessage, steps⟩
  · rw [refused]
    exact .of_dropped (steps channel)
  · rw [accepted, Attempt.accepted?]
    dsimp only
    have fills := Fills.of_step (steps channel)
    split at fills
    case isTrue same =>
      rw [if_pos same, ← isMessage]
      exact fills
    case isFalse differ =>
      rw [if_neg differ]
      exact fills

theorem gets_send (site : Site) (now : Instant) (target : String) (message : Message) :
    site.Gets now
      (fun channel => Trace.accepted channel
        [⟨.send target message, (site.backend.send now target message).1⟩])
      { site with backend := (site.backend.send now target message).2 } := by
  have pushed := site.gets_push now target message
  rw [site.backend.send_eq_push now target message]
  generalize site.backend.push now target message = result at pushed ⊢
  rcases result with ⟨error | _, after⟩
  · exact pushed
  · -- an announcement is seen in no queue
    rcases pushed.continues with ⟨registry, settings, label⟩
    refine ⟨⟨registry, settings, label⟩, ?_⟩
    intro channel
    rw [Trace.accepted_send_ok]
    have fills := pushed.fills channel
    rw [Attempt.accepted?] at fills
    dsimp only at fills
    split at fills
    case isTrue same =>
      rw [if_pos same]
      exact fills
    case isFalse differ =>
      rw [if_neg differ]
      exact fills

theorem gets_perform (site : Site) (now : Instant) (action : Action) :
    site.Gets now (fun channel => Trace.accepted channel [⟨action, (site.perform now action).1⟩])
      (site.perform now action).2 := by
  cases action with
  | send target message => exact site.gets_send now target message
  | members _ | pause _ | report _ | record _ _ | loadSession _ | saveSession _ _ | freshKey =>
      exact .still (.of_registry rfl rfl rfl) fun _ => rfl

theorem Gets.trans {before between after : Site} {now : Instant}
    {first second : String → List Message} (early : before.Gets now first between)
    (late : between.Gets now second after) :
    before.Gets now (fun channel => first channel ++ second channel) after := by
  refine ⟨early.continues.trans late.continues, ?_⟩
  intro channel
  exact (early.fills channel).trans (late.fills channel)

/-- What a site performs leads through the program, to its end or to what is left behind a pause. -/
theorem run_performs (site : Site) (now : Instant) (program : Program α) :
    Program.Run program (site.performs now program) (site.run now program).1.rest := by
  induction program generalizing site with
  | done value => exact Program.Run.stop _
  | perform action next ih =>
      cases action with
      | pause duration => exact @Program.Run.act _ (.pause duration) _ () _ _ (Program.Run.stop _)
      | send _ _ | members _ | report _ | record _ _ | loadSession _ | saveSession _ _ | freshKey =>
          exact Program.Run.act _ (ih _ _)

/-- The queues get what is accepted of what a site performs. -/
theorem gets_run (site : Site) (now : Instant) (program : Program α) :
    site.Gets now (fun channel => (site.performs now program).accepted channel)
      (site.run now program).2 := by
  induction program generalizing site with
  | done value => exact .still (.refl site) fun _ => rfl
  | perform action next ih =>
      have goesOn := (site.gets_perform now action).trans
        (ih (site.perform now action).1 (site.perform now action).2)
      simp only [← Trace.accepted_append] at goesOn
      cases action with
      | pause duration => exact .still (.refl site) fun _ => rfl
      | send _ _ | members _ | report _ | record _ _ | loadSession _ | saveSession _ _ | freshKey =>
          exact goesOn

end Site

end Courier
