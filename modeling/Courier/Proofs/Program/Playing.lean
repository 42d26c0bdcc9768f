import Courier.Proofs.Strand
import Courier.Proofs.Store.Members

/-!
# Programs that are played on a site

To play a program on a site is to let the site perform its actions one after another up to the end,
while time goes by between them. A program without pauses is played in no time by running it.

Whatever is played, the store of the site takes its *course*: the queue of every channel gets what is
accepted on the channel, nothing that is alive is lost, and groups lose at most members whose time is
over.
-/

namespace Courier

/-! ## The course of a store -/

namespace Store

/-- The course of a store between two moments in which messages are accepted and groups are
listed. -/
structure Course (before : Store) (start finish : Instant) (accepted : String → List Message)
    (after : Store) : Prop where
  forward : start ≤ finish
  settings : after.settings = before.settings
  /-- What is accepted comes to the end of its queue and lives as long as messages do. -/
  queues : ∀ channel, ∃ added : List Queued, added.map Queued.message = accepted channel ∧
    (∀ queued ∈ added, start + before.settings.messageExpiry ≤ queued.expiresAt) ∧
    ∀ later, finish ≤ later → (after.queue channel).filter (Queued.live later) =
      (before.queue channel ++ added).filter (Queued.live later)
  groups : ∀ group channel,
    (after.group group).find? channel = (before.group group).find? channel ∨
      (after.group group).find? channel = none ∧
        ∃ endsAt, (before.group group).find? channel = some endsAt ∧ endsAt ≤ finish

namespace Course

variable {before between after : Store} {start middle finish : Instant}
  {accepted first second : String → List Message}

/-- Nothing happens to queues or groups. -/
theorem still (forward : start ≤ finish) (settings : after.settings = before.settings)
    (queues : ∀ channel, after.queue channel = before.queue channel)
    (groups : ∀ group, after.group group = before.group group) :
    Course before start finish (fun _ => []) after where
  forward := forward
  settings := settings
  queues channel := ⟨[], rfl, nofun, by simp [queues channel]⟩
  groups group channel := Or.inl (by rw [groups group])

theorem trans (early : Course before start middle first between)
    (late : Course between middle finish second after) :
    Course before start finish (fun channel => first channel ++ second channel) after where
  forward := Nat.le_trans early.forward late.forward
  settings := late.settings.trans early.settings
  queues channel := by
    rcases early.queues channel with ⟨added, isFirst, lives, kept⟩
    rcases late.queues channel with ⟨more, isSecond, moreLives, moreKept⟩
    refine ⟨added ++ more, by rw [List.map_append, isFirst, isSecond], ?_, ?_⟩
    · intro queued mem
      rcases List.mem_append.mp mem with inAdded | inMore
      · exact lives queued inAdded
      · have bound := moreLives queued inMore
        rw [early.settings] at bound
        exact Nat.le_trans (Nat.add_le_add_right early.forward _) bound
    · intro later le
      rw [moreKept later le, List.filter_append, kept later (Nat.le_trans late.forward le),
        ← List.filter_append, List.append_assoc]
  groups group channel := by
    rcases late.groups group channel with same | ⟨gone, endsAt, found, past⟩
    · rw [same]
      rcases early.groups group channel with same | ⟨gone, endsAt, found, past⟩
      · exact Or.inl same
      · exact Or.inr ⟨gone, endsAt, found, Nat.le_trans past late.forward⟩
    · refine Or.inr ⟨gone, ?_⟩
      rcases early.groups group channel with same | ⟨gone, -⟩
      · exact ⟨endsAt, same ▸ found, past⟩
      · rw [gone] at found
        cases found

/-- Time goes by. -/
theorem wait (course : Course before start middle accepted after) (le : middle ≤ finish) :
    Course before start finish accepted after := by
  have waited := course.trans (still le rfl (fun _ => rfl) fun _ => rfl)
  simpa using waited

end Course

theorem course_members (store : Store) (now : Instant) (group : String) :
    Course store now now (fun _ => []) (store.members now group).2 where
  forward := Nat.le_refl now
  settings := rfl
  queues _ := ⟨[], rfl, nofun, by simp [members]⟩
  groups := find?_members store now group

/-- What was sent is accepted, or nothing is. -/
theorem course_send (store : Store) (now : Instant) (target : String) (message : Message) :
    Course store now now
      (fun channel => Trace.accepted channel
        [⟨.send target message, (store.send now target message).1⟩])
      (store.send now target message).2 where
  forward := Nat.le_refl now
  settings := (send_eq store now target message).2.1
  groups group channel := Or.inl (by rw [group_send])
  queues channel := by
    have sent := send_eq store now target message
    rw [sent.1, sent.2.2 channel]
    rcases push_cases store now target message with
      ⟨after, refused, steps⟩ | ⟨after, accepted, steps⟩
    · rw [refused]
      refine ⟨[], (Trace.accepted_send_error channel target message _).symm, nofun, ?_⟩
      intro later le
      rw [List.append_nil, ← filter_live_filter_live le, (steps channel).filter_live_of_dropped,
        filter_live_filter_live le]
    · rw [accepted]
      have step := steps channel
      by_cases same : target = channel
      · rw [if_pos same] at step
        refine ⟨[⟨message, now + store.settings.messageExpiry⟩], ?_, ?_, ?_⟩
        · exact ((Trace.accepted_send_ok channel target message).trans (if_pos same)).symm
        · intro queued mem
          rw [List.mem_singleton.mp mem]
        · intro later le
          rw [← filter_live_filter_live le, step.filter_live_of_added, List.filter_append,
            filter_live_filter_live le, filter_live_filter_live le, ← List.filter_append]
      · rw [if_neg same] at step
        refine ⟨[], ?_, nofun, ?_⟩
        · exact ((Trace.accepted_send_ok channel target message).trans (if_neg same)).symm
        · intro later le
          rw [List.append_nil, ← filter_live_filter_live le, step.filter_live_of_dropped,
            filter_live_filter_live le]

end Store

/-! ## Playing -/

namespace Site

variable {α : Type}

theorem course_send (site : Site) (now : Instant) (target : String) (message : Message) :
    Store.Course site.backend.store now now
      (fun channel => Trace.accepted channel
        [⟨.send target message, (site.backend.send now target message).1⟩])
      (site.backend.send now target message).2.store := by
  rw [Backend.send]
  dsimp only
  split
  · exact .still (Nat.le_refl now) rfl (fun _ => rfl) fun _ => rfl
  · exact site.backend.store.course_send now target message

theorem course_perform (site : Site) (now : Instant) (action : Action) :
    Store.Course site.backend.store now now
      (fun channel => Trace.accepted channel [⟨action, (site.perform now action).1⟩])
      (site.perform now action).2.backend.store := by
  cases action with
  | send target message => exact site.course_send now target message
  | members group => exact site.backend.store.course_members now group
  | pause _ | report _ | record _ _ | loadSession _ | saveSession _ _ | freshKey =>
      exact .still (Nat.le_refl now) rfl (fun _ => rfl) fun _ => rfl

/-- What comes of playing a program: what was performed, the result, and when and how the site was
left. -/
structure Played (α : Type) where
  trace : Trace
  value : α
  site : Site
  now : Instant

/-- Plays a program on a site. After each action some time goes by: as much as the first of the
delays tells, and none once they are used up. -/
def play (site : Site) (now : Instant) (delays : List Duration) : Program α → Played α
  | .done value => ⟨[], value, site, now⟩
  | .perform action next =>
      let (answer, site) := site.perform now action
      let rest := site.play (now + delays.headD 0) delays.tail (next answer)
      { rest with trace := ⟨action, answer⟩ :: rest.trace }

theorem run_played (site : Site) (now : Instant) (delays : List Duration) (program : Program α) :
    Program.Run program (site.play now delays program).trace
      (.done (site.play now delays program).value) := by
  induction program generalizing site now delays with
  | done value => exact Program.Run.stop _
  | perform action next ih => exact Program.Run.act _ (ih _ _ _ _)

/-- Whatever is played, the store takes its course. -/
theorem course_played (site : Site) (now : Instant) (delays : List Duration)
    (program : Program α) :
    Store.Course site.backend.store now (site.play now delays program).now
      (fun channel => (site.play now delays program).trace.accepted channel)
      (site.play now delays program).site.backend.store := by
  induction program generalizing site now delays with
  | done value => exact .still (Nat.le_refl now) rfl (fun _ => rfl) fun _ => rfl
  | perform action next ih =>
      have first := (site.course_perform now action).wait (Nat.le_add_right now (delays.headD 0))
      have whole := first.trans (ih (site.perform now action).1 (site.perform now action).2
        (now + delays.headD 0) delays.tail)
      simp only [← Trace.accepted_append] at whole
      exact whole

end Site

/-! ## Programs without pauses -/

/-- A program that does not pause, however its actions are answered. -/
def Program.Steady {α : Type} : Program α → Prop
  | .done _ => True
  | .perform action next =>
      (∀ duration, action ≠ .pause duration) ∧ ∀ answer, (next answer).Steady

theorem Program.Steady.bind {α β : Type} {program : Program α} {next : α → Program β}
    (steady : program.Steady) (nextSteady : ∀ value, (next value).Steady) :
    (program.bind next).Steady := by
  induction program with
  | done value => exact nextSteady value
  | perform action rest ih => exact ⟨steady.1, fun answer => ih answer (steady.2 answer)⟩

/-- To run a program that does not pause is to play it without delays. -/
theorem Site.run_of_steady {α : Type} (site : Site) (now : Instant) {program : Program α}
    (steady : program.Steady) :
    site.run now program =
        (.finished (site.play now [] program).value, (site.play now [] program).site) ∧
      (site.play now [] program).now = now := by
  induction program generalizing site with
  | done value => exact ⟨rfl, rfl⟩
  | perform action next ih =>
      cases action with
      | pause duration => exact absurd rfl (steady.1 duration)
      | send _ _ | members _ | report _ | record _ _ | loadSession _ | saveSession _ _ | freshKey =>
          exact ih _ _ (steady.2 _)

end Courier
