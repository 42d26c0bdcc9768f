import Courier.Proofs.Worker.Workshop

/-!
# What a move of a workshop does

Whatever a move does, it is one of six effects: something happens outside, a turn goes on or ends
without a message, a turn takes a message, a message is brought directly, a job is handed to its
consumer, or a job ends. Everything about runs is derived from these.

A look changes the queues of the channels to which it is confined and no others, and one that fails
changes none.
-/

namespace Courier

open Socket (under under_append under_self under_of_ne)

namespace Workshop

variable {owner : Nat → Nat} {before after workshop : Workshop} {thread number : Nat} {job : Job}

/-- The queue of a channel. -/
abbrev queue (workshop : Workshop) (channel : String) : List Queued :=
  workshop.site.backend.store.queue channel

/-- A thread works on no job. -/
def Jobless (workshop : Workshop) (thread : Nat) : Prop :=
  ∀ number, workshop.threads thread ≠ .working number

/-- A thread works on a job that has come as far as some stage. -/
structure WorksOn (workshop : Workshop) (thread number : Nat) (job : Job) (stage : JobStage) :
    Prop where
  busy : workshop.threads thread = .working number
  found : workshop.jobs[number]? = some job
  come : job.stage = stage

theorem worksOn_of_jobAt? {stage : JobStage}
    (found : workshop.jobAt? thread stage = some (number, job)) :
    workshop.WorksOn thread number job stage := by
  simp only [jobAt?] at found
  split at found
  · rename_i number working
    split at found
    · rename_i job held
      split at found
      · rename_i isStage
        cases found
        exact ⟨working, held, isStage⟩
      · cases found
    · cases found
  · cases found

inductive Effect (owner : Nat → Nat) (before : Workshop) : Workshop → Prop
  | outside {now : Instant} {site : Site} {accepted : List (String × Message)}
      (later : before.now ≤ now)
      (grows : ∀ channel consumer, before.site.registry.consumer? channel = some consumer →
        site.registry.consumer? channel = some consumer)
      (queues : ∀ channel, ∃ added : Option Queued,
        QueueStep before.now (before.queue channel) added none
          (site.backend.store.queue channel) ∧
        under channel accepted =
          under channel before.accepted ++ (added.map Queued.message).toList) :
      Effect owner before { before with now, site, accepted }
  | rests {site : Site} {thread : Nat} {next : Thread}
      {more : List (Nat × Except ChannelError TurnResult)} (free : before.Jobless thread)
      (rests : ∀ number, next ≠ .working number)
      (confined : ∀ channel ∈ next.channels, channel ∈ (before.threads thread).channels ∨
        ∃ consumer, before.site.registry.consumer? channel = some consumer)
      (kept : ∀ entry ∈ more, entry.2 ≠ .ok .dropped)
      (registry : site.registry = before.site.registry)
      (queues : ∀ channel, QueueStep before.now (before.queue channel) none none
        (site.backend.store.queue channel)) :
      Effect owner before
        { before.withThread thread next with site, returns := before.returns ++ more }
  | takes {site : Site} {thread : Nat} {channel : String} {message : Message}
      (free : before.Jobless thread) (listed : channel ∈ (before.threads thread).channels)
      (registry : site.registry = before.site.registry)
      (queues : ∀ other, QueueStep before.now (before.queue other) none
        (if channel = other then some message else none) (site.backend.store.queue other)) :
      Effect owner before
        (({ before with site }.count owner thread Tally.countReceived).begin thread
          { worker := owner thread, direct := false, channel, message })
  | directs {thread : Nat} {channel : String} {message : Message}
      (free : before.Jobless thread) :
      Effect owner before
        (before.begin thread { worker := owner thread, direct := true, channel, message })
  | hands {thread number : Nat} {job : Job} {consumer : Consumer}
      (works : before.WorksOn thread number job .taken)
      (bound : before.site.registry.consumer? job.channel = some consumer) :
      Effect owner before
        { before with
          jobs := before.jobs.set number { job with stage := .handed }
          handovers := before.handovers ++
            [⟨number, job.direct, job.channel, job.message, consumer⟩] }
  | settles {site : Site} {thread number : Nat} {job : Job} {stage : JobStage} {result : TurnResult}
      (works : before.WorksOn thread number job stage) (underway : ∀ result, stage ≠ .ended result)
      (counted : result ≠ .idle)
      (dropped : result = .dropped → before.site.registry.consumer? job.channel = none)
      (handed : result ≠ .dropped → stage = .handed)
      (registry : site.registry = before.site.registry)
      (store : site.backend.store = before.site.backend.store) :
      Effect owner before ({ before with site }.settle owner thread number job result)

namespace Effect

theorem refl (workshop : Workshop) : Effect owner workshop workshop := by
  apply outside (Nat.le_refl _)
  · intro channel consumer bound
    exact bound
  · intro channel
    exact ⟨none, .refl _ _, (List.append_nil _).symm⟩

/-- What happens to a site between two steps of its workers, while no time passes. -/
theorem still {site : Site} (registry : site.registry = workshop.site.registry)
    (queues : ∀ channel, site.backend.store.queue channel = workshop.queue channel) :
    Effect owner workshop { workshop with site } := by
  apply outside (Nat.le_refl _)
  · intro channel consumer bound
    rw [registry]
    exact bound
  · intro channel
    rw [queues channel]
    exact ⟨none, .refl _ _, (List.append_nil _).symm⟩

theorem push (workshop : Workshop) (channel : String) (message : Message) :
    Effect owner workshop (workshop.move owner (.push channel message)) := by
  simp only [move]
  rcases workshop.site.backend.push_cases workshop.now channel message with
    ⟨error, backend, refused, steps⟩ | ⟨queued, backend, accepted, same, steps⟩
  · rw [refused]
    apply outside (Nat.le_refl _)
    · intro other consumer bound
      exact bound
    · intro other
      exact ⟨none, steps other, (List.append_nil _).symm⟩
  · rw [accepted]
    apply outside (Nat.le_refl _)
    · intro other consumer bound
      exact bound
    · intro other
      refine ⟨_, steps other, ?_⟩
      rw [under_append]
      by_cases here : channel = other
      · subst here
        simp [same]
      · simp [here, under_of_ne here]

theorem register (workshop : Workshop) (consumer : Consumer) (channels : List String) :
    Effect owner workshop (workshop.move owner (.register consumer channels)) := by
  simp only [move]
  cases added : workshop.site.registry.add consumer.name consumer channels with
  | error error => exact refl workshop
  | ok registry =>
      apply outside (Nat.le_refl _)
      · intro channel bound held
        exact Registry.consumer?_of_add added held
      · intro channel
        exact ⟨none, .refl _ _, (List.append_nil _).symm⟩

theorem leave {backend : Backend} {result : Except ChannelError TurnResult}
    (free : workshop.Jobless thread) (kept : result ≠ .ok .dropped)
    (queues : ∀ channel, QueueStep workshop.now (workshop.queue channel) none none
      (backend.store.queue channel)) :
    Effect owner workshop ((workshop.withBackend backend).leave thread result) := by
  apply @rests owner workshop { workshop.site with backend } thread .idle [(thread, result)] free _
    _ _ rfl queues
  · intro number
    exact Thread.noConfusion
  · intro channel listed
    cases listed
  · intro entry mem
    rw [List.mem_singleton] at mem
    rw [mem]
    exact kept

theorem accept {backend : Backend} {receipt : Receipt} {order : List String}
    (free : workshop.Jobless thread)
    (listed : ∀ channel ∈ order, channel ∈ (workshop.threads thread).channels)
    (concerns : receipt.Concerns order)
    (queues : ∀ channel, QueueStep workshop.now (workshop.queue channel) none
      (receipt.from? channel) (backend.store.queue channel)) :
    Effect owner workshop ((workshop.withBackend backend).accept owner thread receipt) := by
  cases receipt with
  | nothing =>
      apply leave free _ queues
      intro same
      cases same
  | received channel message => exact takes free (listed channel concerns) rfl queues
  | waiting left =>
      have rests := @rests owner workshop { workshop.site with backend } thread (.waiting left) []
        free (by simp) ?_ (by simp) rfl queues
      · rw [List.append_nil] at rests
        exact rests
      · intro channel mem
        have same : left.channels = order := concerns
        change channel ∈ left.channels at mem
        rw [same] at mem
        exact Or.inl (listed channel mem)

theorem look (workshop : Workshop) {order : List String}
    (listed : ∀ channel ∈ order, channel ∈ (workshop.threads thread).channels) (block : Bool) :
    Effect owner workshop (workshop.look owner thread order block) := by
  rw [Workshop.look]
  cases station : workshop.threads thread with
  | idle | working _ => exact refl workshop
  | informed channels =>
      have free : workshop.Jobless thread := by simp [Jobless, station]
      dsimp only
      rcases workshop.site.backend.receive_reaches_or_fails workshop.now order block with
        reached | ⟨error, failed⟩
      · rw [reached]
        apply accept free listed
        · apply Store.concerns_receive
        · intro channel
          apply Store.queueStep_receive
      · rw [failed]
        apply leave free
        · intro same
          cases same
        · intro channel
          exact .refl _ _
  | waiting left =>
      have free : workshop.Jobless thread := by simp [Jobless, station]
      apply accept free listed
      · exact Store.concerns_resume _ _ { left with channels := order }
      · intro channel
        apply Store.queueStep_resume

theorem start (workshop : Workshop) (thread : Nat) :
    Effect owner workshop (workshop.start thread) := by
  rw [Workshop.start]
  cases station : workshop.threads thread with
  | informed _ | waiting _ | working _ => exact refl workshop
  | idle =>
      have free : workshop.Jobless thread := by simp [Jobless, station]
      dsimp only
      split
      · apply @leave owner workshop thread workshop.site.backend _ free
        · intro same
          cases same
        · intro channel
          exact .refl _ _
      · have rests := @rests owner workshop workshop.site thread
          (.informed workshop.site.registry.channels) [] free (by simp)
          (fun channel mem => Or.inr (Registry.mem_channels.mp mem)) (by simp) rfl
          (fun channel => .refl _ _)
        rw [List.append_nil] at rests
        exact rests

theorem hand {thread number : Nat} {job : Job} (works : workshop.WorksOn thread number job .taken) :
    Effect owner workshop (workshop.hand owner thread number job) := by
  rw [Workshop.hand]
  cases bound : workshop.site.registry.consumer? job.channel with
  | some consumer => exact hands works bound
  | none =>
      exact settles works (fun result => JobStage.noConfusion) (by decide) (fun _ => bound)
        (fun other => absurd rfl other) rfl rfl

end Effect

theorem effect_move (workshop : Workshop) (move : Move) :
    Effect owner workshop (workshop.move owner move) := by
  cases move with
  | wait duration =>
      apply Effect.outside (Nat.le_add_right _ _)
      · intro channel consumer bound
        exact bound
      · intro channel
        exact ⟨none, .refl _ _, (List.append_nil _).symm⟩
  | push channel message => exact .push workshop channel message
  | announce => exact .still rfl fun _ => rfl
  | register consumer channels => exact .register workshop consumer channels
  | elsewhere sessions supply groups log notes => exact .still rfl fun _ => rfl
  | start thread => exact .start workshop thread
  | direct thread channel message =>
      simp only [Workshop.move]
      cases station : workshop.threads thread with
      | informed _ | waiting _ | working _ => exact .refl workshop
      | idle => exact .directs (by simp [Jobless, station])
  | look thread order block =>
      simp only [Workshop.move]
      split
      · rename_i perm
        exact .look workshop (fun channel mem => perm.mem_iff.mp mem) block
      · exact .refl workshop
  | hand thread =>
      simp only [Workshop.move]
      split
      · rename_i found
        exact .hand (worksOn_of_jobAt? found)
      · exact .refl workshop
  | finish thread outcome =>
      simp only [Workshop.move]
      split
      · rename_i found
        apply Effect.settles (worksOn_of_jobAt? found)
        · intro result
          exact JobStage.noConfusion
        · cases outcome <;> exact TurnResult.noConfusion
        · intro dropped
          cases outcome <;> cases dropped
        · intro _
          rfl
        · exact Site.registry_reportAll _ _
        · rw [Site.backend_reportAll]
      · exact .refl workshop

end Workshop

end Courier
