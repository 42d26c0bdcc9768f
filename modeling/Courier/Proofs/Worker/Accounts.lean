import Courier.Proofs.Lists
import Courier.Proofs.Worker.Effects

/-!
# What workers have done

Whatever workers, senders, registrations and consumers do in which order, no message is handed over
twice, and none that a turn has taken is dropped. For a turn takes messages from bound channels only,
and a bound channel stays bound, however long the turn has known of it. The tally of a worker counts
its jobs, each job that has ended in one place.
-/

namespace Courier

open Socket (under under_append under_self under_of_ne getElem?_snoc_cases)

/-! ## Jobs and tallies -/

namespace Job

/-- The message that a turn took, with its channel. -/
def taken? (job : Job) : Option (String × Message) :=
  if job.direct then none else some (job.channel, job.message)

def isEnded (job : Job) : Bool :=
  match job.stage with
  | .ended _ => true
  | _ => false

/-- A job came to a worker by a turn, or directly. -/
def cameBy (worker : Nat) (direct : Bool) (job : Job) : Bool :=
  job.worker = worker ∧ job.direct = direct

def endedAs (worker : Nat) (result : TurnResult) (job : Job) : Bool :=
  job.worker = worker ∧ job.stage = .ended result

def underwayBy (worker : Nat) (job : Job) : Bool :=
  job.worker = worker ∧ job.isEnded = false

end Job

namespace Tally

/-- The tally of a worker by its jobs: those that came by turns, and how those that have ended did
so. -/
def ofJobs (worker : Nat) (jobs : List Job) : Tally where
  received := jobs.countP (Job.cameBy worker false)
  processed := jobs.countP (Job.endedAs worker .processed)
  failed := jobs.countP (Job.endedAs worker .failed)
  dropped := jobs.countP (Job.endedAs worker .dropped)

/-- The jobs that came to a worker by turns or directly have all ended in one of three ways, apart
from those on which it still works. -/
theorem balance (worker : Nat) (jobs : List Job)
    (counted : ∀ job ∈ jobs, job.stage ≠ .ended .idle) :
    (ofJobs worker jobs).received + jobs.countP (Job.cameBy worker true) =
      (ofJobs worker jobs).processed + (ofJobs worker jobs).failed +
        (ofJobs worker jobs).dropped + jobs.countP (Job.underwayBy worker) := by
  induction jobs with
  | nil => rfl
  | cons job rest ih =>
      have later := ih fun other mem => counted other (List.mem_cons_of_mem job mem)
      have first := counted job List.mem_cons_self
      simp only [ofJobs] at later ⊢
      simp only [List.countP_cons]
      rcases job with ⟨worker', direct, channel, message, stage⟩
      by_cases own : worker' = worker
      · -- the job counts once on either side, whatever its stage is
        cases direct <;> rcases stage with _ | _ | ⟨_ | _ | _ | _⟩ <;>
          simp_all [Job.cameBy, Job.endedAs, Job.underwayBy, Job.isEnded] <;> omega
      · simpa [Job.cameBy, Job.endedAs, Job.underwayBy, own] using later

section Progress

variable {jobs : List Job} {number : Nat} {job : Job} (found : jobs[number]? = some job)
  (underway : ∀ result, job.stage ≠ .ended result) (worker : Nat)

include found in
theorem countP_cameBy_set (stage : JobStage) (direct : Bool) :
    (jobs.set number { job with stage }).countP (Job.cameBy worker direct) =
      jobs.countP (Job.cameBy worker direct) :=
  Nat.add_right_cancel (countP_set_add found (Job.cameBy worker direct))

include found underway in
theorem countP_endedAs_set (stage : JobStage) (result : TurnResult) :
    (jobs.set number { job with stage }).countP (Job.endedAs worker result) =
      jobs.countP (Job.endedAs worker result) +
        if job.worker = worker ∧ stage = .ended result then 1 else 0 := by
  have counted := @countP_set_add _ _ _ _ { job with stage } found (Job.endedAs worker result)
  simpa [Job.endedAs, underway result] using counted

include found underway in
theorem ofJobs_set_handed :
    ofJobs worker (jobs.set number { job with stage := .handed }) = ofJobs worker jobs := by
  simp [ofJobs, countP_cameBy_set found, countP_endedAs_set found underway]

include found underway in
theorem ofJobs_set_ended (result : TurnResult) :
    ofJobs worker (jobs.set number { job with stage := .ended result }) =
      if job.worker = worker then (ofJobs worker jobs).count result else ofJobs worker jobs := by
  simp only [ofJobs, countP_cameBy_set found, countP_endedAs_set found underway]
  by_cases own : job.worker = worker
  · cases result <;> simp [own, count]
  · simp [own]

end Progress

end Tally

namespace Workshop

/-- The messages that turns have taken, with their channels, in the order in which they did. -/
def taken (workshop : Workshop) : List (String × Message) := workshop.jobs.filterMap Job.taken?

/-! ## What holds of every run -/

structure Sound (owner : Nat → Nat) (workshop : Workshop) : Prop where
  books : ∀ channel, ∃ ledger, Books 0 0 workshop.now (under channel workshop.accepted)
    (under channel workshop.taken) ledger (workshop.queue channel)
  listed : ∀ thread, ∀ channel ∈ (workshop.threads thread).channels,
    ∃ consumer, workshop.site.registry.consumer? channel = some consumer
  served : ∀ job ∈ workshop.jobs, job.direct = false →
    ∃ consumer, workshop.site.registry.consumer? job.channel = some consumer
  working : ∀ thread number, workshop.threads thread = .working number →
    ∃ job, workshop.jobs[number]? = some job ∧ job.worker = owner thread
  attended : ∀ (number : Nat) job, workshop.jobs[number]? = some job → job.isEnded = false →
    ∃ thread, workshop.threads thread = .working number
  handed : ∀ handover ∈ workshop.handovers, ∃ job, workshop.jobs[handover.job]? = some job ∧
    job.stage ≠ .taken ∧ job.direct = handover.direct ∧ job.channel = handover.channel ∧
    job.message = handover.message ∧
    workshop.site.registry.consumer? handover.channel = some handover.consumer
  given : ∀ (number : Nat) job, workshop.jobs[number]? = some job → job.direct = false →
    job.stage ≠ .taken →
      ∃ consumer, ⟨number, job.direct, job.channel, job.message, consumer⟩ ∈ workshop.handovers
  once : (workshop.handovers.map Handover.job).Nodup
  ended : ∀ job ∈ workshop.jobs, job.stage ≠ .ended .idle ∧
    (job.stage = .ended .dropped → job.direct = true)
  returned : ∀ entry ∈ workshop.returns, entry.2 ≠ .ok .dropped
  tallied : ∀ worker, workshop.tallies worker = Tally.ofJobs worker workshop.jobs

namespace Sound

variable {owner : Nat → Nat} {before workshop : Workshop}

/-! ### Steps of the books -/

theorem books_step (sound : Sound owner before) {channel : String} {added : Option Queued}
    {brought : Option Message} {queue : List Queued}
    (step : QueueStep before.now (before.queue channel) added brought queue) :
    ∃ ledger, Books 0 0 before.now
      (under channel before.accepted ++ (added.map Queued.message).toList)
      (under channel before.taken ++ brought.toList) ledger queue := by
  rcases sound.books channel with ⟨ledger, books⟩
  exact books.step step fun queued _ => Nat.zero_le _

theorem books_untaken (sound : Sound owner before) {channel : String} {queue : List Queued}
    (step : QueueStep before.now (before.queue channel) none none queue) :
    ∃ ledger, Books 0 0 before.now (under channel before.accepted) (under channel before.taken)
      ledger queue := by
  simpa using sound.books_step step

/-! ### Steps of the jobs -/

theorem working_update {thread : Nat} {next : Thread} (rests : ∀ number, next ≠ .working number)
    (sound : Sound owner before) (other number : Nat)
    (working : Function.update before.threads thread next other = .working number) :
    ∃ job, before.jobs[number]? = some job ∧ job.worker = owner other := by
  by_cases same : other = thread
  · subst same
    rw [Function.update_self] at working
    exact absurd working (rests number)
  · rw [Function.update_of_ne same] at working
    exact sound.working other number working

theorem attended_update {thread : Nat} (next : Thread) (free : before.Jobless thread)
    (sound : Sound owner before) (number : Nat) (job : Job)
    (held : before.jobs[number]? = some job) (underway : job.isEnded = false) :
    ∃ other, Function.update before.threads thread next other = .working number := by
  rcases sound.attended number job held underway with ⟨other, working⟩
  have differ : other ≠ thread := by
    rintro rfl
    exact free number working
  exact ⟨other, by rw [Function.update_of_ne differ, working]⟩

theorem begin {thread : Nat} {job : Job} (sound : Sound owner before)
    (free : before.Jobless thread) (own : job.worker = owner thread) (fresh : job.stage = .taken)
    (served : job.direct = false →
      ∃ consumer, before.site.registry.consumer? job.channel = some consumer)
    {site : Site} (registry : site.registry = before.site.registry) {tallies : Nat → Tally}
    (books : ∀ channel, ∃ ledger, Books 0 0 before.now (under channel before.accepted)
      (under channel (before.taken ++ (job.taken?).toList)) ledger
      (site.backend.store.queue channel))
    (tallied : ∀ worker, tallies worker = Tally.ofJobs worker (before.jobs ++ [job])) :
    Sound owner (({ before with site, tallies } : Workshop).begin thread job) where
  books := by
    have taken : (({ before with site, tallies } : Workshop).begin thread job).taken =
        before.taken ++ (job.taken?).toList := by
      cases part : job.taken? <;> simp [Workshop.begin, withThread, Workshop.taken, part]
    rw [taken]
    exact books
  listed := by
    intro other channel mem
    change ∃ consumer, site.registry.consumer? channel = some consumer
    rw [registry]
    by_cases same : other = thread
    · subst same
      simp [Workshop.begin, withThread, Thread.channels] at mem
    · apply sound.listed other
      simpa [Workshop.begin, withThread, Function.update_of_ne same] using mem
  served := by
    intro other mem notDirect
    change ∃ consumer, site.registry.consumer? other.channel = some consumer
    rw [registry]
    rcases List.mem_append.mp mem with old | new
    · exact sound.served other old notDirect
    · cases List.mem_singleton.mp new
      exact served notDirect
  working := by
    intro other number working
    by_cases same : other = thread
    · subst same
      change Function.update before.threads other _ other = _ at working
      rw [Function.update_self] at working
      cases working
      exact ⟨job, List.getElem?_concat_length, own⟩
    · change Function.update before.threads thread _ other = _ at working
      rw [Function.update_of_ne same] at working
      rcases sound.working other number working with ⟨held, found, isOwn⟩
      have bound := (List.getElem?_eq_some_iff.mp found).1
      exact ⟨held, by rw [← found]; exact List.getElem?_append_left bound, isOwn⟩
  attended := by
    intro number held found underway
    rcases getElem?_snoc_cases found with old | ⟨isLast, -⟩
    · exact sound.attended_update _ free number held old underway
    · subst isLast
      exact ⟨thread, Function.update_self ..⟩
  handed := by
    intro handover mem
    rcases sound.handed handover mem with ⟨held, found, stage, direct, channel, message, bound⟩
    have small := (List.getElem?_eq_some_iff.mp found).1
    refine ⟨held, ?_, stage, direct, channel, message, ?_⟩
    · rw [← found]
      exact List.getElem?_append_left small
    · change site.registry.consumer? _ = _
      rw [registry]
      exact bound
  given := by
    intro number held found byTurn notTaken
    rcases getElem?_snoc_cases found with old | ⟨-, rfl⟩
    · exact sound.given number held old byTurn notTaken
    · exact absurd fresh notTaken
  once := sound.once
  ended := by
    intro other mem
    rcases List.mem_append.mp mem with old | new
    · exact sound.ended other old
    · cases List.mem_singleton.mp new
      simp [fresh]
  returned := sound.returned
  tallied := tallied

theorem taken_set {number : Nat} {job : Job} (found : before.jobs[number]? = some job)
    (stage : JobStage) :
    (before.jobs.set number { job with stage }).filterMap Job.taken? = before.taken :=
  filterMap_set found rfl

theorem served_set {number : Nat} {job : Job} (sound : Sound owner before)
    (found : before.jobs[number]? = some job) {stage : JobStage} (other : Job)
    (mem : other ∈ before.jobs.set number { job with stage }) (notDirect : other.direct = false) :
    ∃ consumer, before.site.registry.consumer? other.channel = some consumer := by
  rcases List.mem_or_eq_of_mem_set mem with old | rfl
  · exact sound.served other old notDirect
  · exact sound.served job (List.mem_of_getElem? found) notDirect

theorem working_set {number : Nat} {job : Job} (found : before.jobs[number]? = some job)
    {stage : JobStage} {other : Nat} {worker : Nat}
    (held : ∃ held, before.jobs[other]? = some held ∧ held.worker = worker) :
    ∃ held, (before.jobs.set number { job with stage })[other]? = some held ∧
      held.worker = worker := by
  rcases held with ⟨held, there, own⟩
  by_cases same : number = other
  · subst same
    rw [there] at found
    cases found
    exact ⟨_, List.getElem?_set_self (List.getElem?_eq_some_iff.mp there).1, own⟩
  · exact ⟨held, by rw [List.getElem?_set_ne same, there], own⟩

theorem handed_set {number : Nat} {job : Job} (found : before.jobs[number]? = some job)
    {stage : JobStage} (notTaken : stage ≠ .taken) {handover : Handover}
    (handed : ∃ job, before.jobs[handover.job]? = some job ∧ job.stage ≠ .taken ∧
      job.direct = handover.direct ∧ job.channel = handover.channel ∧
      job.message = handover.message ∧
      before.site.registry.consumer? handover.channel = some handover.consumer) :
    ∃ held, (before.jobs.set number { job with stage })[handover.job]? = some held ∧
      held.stage ≠ .taken ∧ held.direct = handover.direct ∧ held.channel = handover.channel ∧
      held.message = handover.message ∧
      before.site.registry.consumer? handover.channel = some handover.consumer := by
  rcases handed with ⟨held, there, old, alike⟩
  by_cases same : number = handover.job
  · subst same
    rw [there] at found
    cases found
    exact ⟨_, List.getElem?_set_self (List.getElem?_eq_some_iff.mp there).1, notTaken, alike⟩
  · exact ⟨held, by rw [List.getElem?_set_ne same, there], old, alike⟩

theorem given_set (sound : Sound owner before) {number : Nat} {job : Job} {stage : JobStage}
    {handovers : List Handover} (grows : before.handovers ⊆ handovers)
    (given : job.direct = false →
      ∃ consumer, ⟨number, job.direct, job.channel, job.message, consumer⟩ ∈ handovers)
    (other : Nat) (held : Job)
    (found : (before.jobs.set number { job with stage })[other]? = some held)
    (byTurn : held.direct = false) (notTaken : held.stage ≠ .taken) :
    ∃ consumer, ⟨other, held.direct, held.channel, held.message, consumer⟩ ∈ handovers := by
  rcases getElem?_set_cases found with ⟨rfl, rfl⟩ | ⟨-, old⟩
  · exact given byTurn
  · rcases sound.given other held old byTurn notTaken with ⟨consumer, mem⟩
    exact ⟨consumer, grows mem⟩

/-! ### Effects -/

theorem outside (sound : Sound owner before) {now : Instant} {site : Site}
    {accepted : List (String × Message)} (later : before.now ≤ now)
    (grows : ∀ channel consumer, before.site.registry.consumer? channel = some consumer →
      site.registry.consumer? channel = some consumer)
    (queues : ∀ channel, ∃ added : Option Queued,
      QueueStep before.now (before.queue channel) added none (site.backend.store.queue channel) ∧
      under channel accepted =
        under channel before.accepted ++ (added.map Queued.message).toList) :
    Sound owner { before with now, site, accepted } where
  books := by
    intro channel
    rcases queues channel with ⟨added, step, grown⟩
    rcases sound.books_step step with ⟨ledger, books⟩
    rw [Option.toList_none, List.append_nil] at books
    refine ⟨ledger, ?_⟩
    change Books 0 0 now (under channel accepted) (under channel before.taken) _ _
    rw [grown]
    exact books.wait later
  listed := by
    intro thread channel mem
    rcases sound.listed thread channel mem with ⟨consumer, bound⟩
    exact ⟨consumer, grows channel consumer bound⟩
  served := by
    intro job mem notDirect
    rcases sound.served job mem notDirect with ⟨consumer, bound⟩
    exact ⟨consumer, grows job.channel consumer bound⟩
  working := sound.working
  attended := sound.attended
  handed := by
    intro handover mem
    rcases sound.handed handover mem with ⟨job, found, stage, direct, channel, message, bound⟩
    exact ⟨job, found, stage, direct, channel, message, grows _ _ bound⟩
  given := sound.given
  once := sound.once
  ended := sound.ended
  returned := sound.returned
  tallied := sound.tallied

theorem rests (sound : Sound owner before) {site : Site} {thread : Nat} {next : Thread}
    {more : List (Nat × Except ChannelError TurnResult)} (free : before.Jobless thread)
    (rests : ∀ number, next ≠ .working number)
    (confined : ∀ channel ∈ next.channels, channel ∈ (before.threads thread).channels ∨
      ∃ consumer, before.site.registry.consumer? channel = some consumer)
    (kept : ∀ entry ∈ more, entry.2 ≠ .ok .dropped)
    (registry : site.registry = before.site.registry)
    (queues : ∀ channel, QueueStep before.now (before.queue channel) none none
      (site.backend.store.queue channel)) :
    Sound owner { before.withThread thread next with site, returns := before.returns ++ more } where
  books := fun channel => sound.books_untaken (queues channel)
  listed := by
    intro other channel mem
    change ∃ consumer, site.registry.consumer? channel = some consumer
    change channel ∈ (Function.update before.threads thread next other).channels at mem
    rw [registry]
    by_cases same : other = thread
    · subst same
      rw [Function.update_self] at mem
      rcases confined channel mem with old | bound
      · exact sound.listed other channel old
      · exact bound
    · rw [Function.update_of_ne same] at mem
      exact sound.listed other channel mem
  served := by
    rw [registry]
    exact sound.served
  working := sound.working_update rests
  attended := sound.attended_update next free
  handed := by
    rw [registry]
    exact sound.handed
  given := sound.given
  once := sound.once
  ended := sound.ended
  returned := by
    intro entry mem
    rcases List.mem_append.mp mem with old | new
    · exact sound.returned entry old
    · exact kept entry new
  tallied := sound.tallied

theorem takes (sound : Sound owner before) {site : Site} {thread : Nat} {channel : String}
    {message : Message} (free : before.Jobless thread)
    (listed : channel ∈ (before.threads thread).channels)
    (registry : site.registry = before.site.registry)
    (queues : ∀ other, QueueStep before.now (before.queue other) none
      (if channel = other then some message else none) (site.backend.store.queue other)) :
    Sound owner (({ before with site }.count owner thread Tally.countReceived).begin thread
      { worker := owner thread, direct := false, channel, message }) := by
  apply sound.begin free rfl rfl (fun _ => sound.listed thread channel listed) registry
  · intro other
    rcases sound.books_step (queues other) with ⟨ledger, books⟩
    refine ⟨ledger, ?_⟩
    rw [Option.map_none, Option.toList_none, List.append_nil] at books
    have part : Job.taken?
        { worker := owner thread, direct := false, channel, message } = some (channel, message) :=
      rfl
    rw [part, under_append]
    by_cases here : channel = other
    · subst here
      simpa using books
    · simpa [here, under_of_ne here] using books
  · intro worker
    by_cases own : worker = owner thread
    · subst own
      rw [Function.update_self, sound.tallied]
      simp [Tally.ofJobs, Tally.countReceived, Job.cameBy, Job.endedAs]
    · rw [Function.update_of_ne own, sound.tallied]
      simp [Tally.ofJobs, Job.cameBy, Job.endedAs, Ne.symm own]

theorem directs (sound : Sound owner before) {thread : Nat} {channel : String} {message : Message}
    (free : before.Jobless thread) :
    Sound owner (before.begin thread { worker := owner thread, direct := true, channel, message }) := by
  apply @begin owner before thread _ sound free rfl rfl (fun direct => by cases direct) before.site rfl
    before.tallies
  · intro other
    simpa [Job.taken?] using sound.books other
  · intro worker
    rw [sound.tallied]
    simp [Tally.ofJobs, Job.cameBy, Job.endedAs]

theorem hands (sound : Sound owner before) {thread number : Nat} {job : Job} {consumer : Consumer}
    (works : before.WorksOn thread number job .taken)
    (bound : before.site.registry.consumer? job.channel = some consumer) :
    Sound owner
      { before with
        jobs := before.jobs.set number { job with stage := .handed }
        handovers := before.handovers ++
          [⟨number, job.direct, job.channel, job.message, consumer⟩] } where
  books := by
    intro channel
    rw [Workshop.taken, taken_set works.found]
    exact sound.books channel
  listed := sound.listed
  served := sound.served_set works.found
  working := fun other held working => working_set works.found (sound.working other held working)
  attended := by
    intro other held found underway
    rcases getElem?_set_cases found with ⟨same, -⟩ | ⟨-, old⟩
    · exact ⟨thread, by rw [same]; exact works.busy⟩
    · exact sound.attended other held old underway
  handed := by
    intro handover mem
    rcases List.mem_append.mp mem with old | new
    · exact handed_set works.found JobStage.noConfusion (sound.handed handover old)
    · cases List.mem_singleton.mp new
      exact ⟨_, List.getElem?_set_self (List.getElem?_eq_some_iff.mp works.found).1,
        JobStage.noConfusion, rfl, rfl, rfl, bound⟩
  given := sound.given_set (List.subset_append_left _ _) fun _ =>
    ⟨consumer, List.mem_append_right _ (List.mem_singleton_self _)⟩
  once := by
    rw [List.map_append, List.nodup_append]
    refine ⟨sound.once, by simp, ?_⟩
    intro first firstMem second secondMem same
    -- a job that was handed over before has come further than this one
    rcases List.mem_map.mp firstMem with ⟨handover, mem, rfl⟩
    rcases sound.handed handover mem with ⟨held, found, notTaken, -⟩
    cases List.mem_singleton.mp secondMem
    rw [same, works.found] at found
    cases found
    exact notTaken works.come
  ended := by
    intro other mem
    rcases List.mem_or_eq_of_mem_set mem with old | rfl
    · exact sound.ended other old
    · exact ⟨JobStage.noConfusion, JobStage.noConfusion⟩
  returned := sound.returned
  tallied := by
    intro worker
    have underway : ∀ result, job.stage ≠ .ended result := by simp [works.come]
    rw [Tally.ofJobs_set_handed works.found underway]
    exact sound.tallied worker

theorem settles (sound : Sound owner before) {site : Site} {thread number : Nat} {job : Job}
    {stage : JobStage} {result : TurnResult} (works : before.WorksOn thread number job stage)
    (underway : ∀ result, stage ≠ .ended result) (counted : result ≠ .idle)
    (dropped : result = .dropped → before.site.registry.consumer? job.channel = none)
    (handed : result ≠ .dropped → stage = .handed)
    (registry : site.registry = before.site.registry)
    (store : site.backend.store = before.site.backend.store) :
    Sound owner (({ before with site } : Workshop).settle owner thread number job result) := by
  have kept : result = .dropped → job.direct = true := by
    intro isDropped
    cases direct : job.direct with
    | true => rfl
    | false =>
        rcases sound.served job (List.mem_of_getElem? works.found) direct with ⟨consumer, bound⟩
        rw [dropped isDropped] at bound
        cases bound
  have unended : ∀ result, job.stage ≠ .ended result := by
    rw [works.come]
    exact underway
  have own : job.worker = owner thread := by
    rcases sound.working thread number works.busy with ⟨held, there, own⟩
    rw [works.found] at there
    cases there
    exact own
  refine ⟨?_, ?_, ?_, ?_, ?_, ?_, ?_, sound.once, ?_, ?_, ?_⟩
  · intro channel
    rw [Workshop.taken, settle, taken_set works.found]
    change ∃ ledger, Books 0 0 before.now _ _ ledger (site.backend.store.queue channel)
    rw [store]
    exact sound.books channel
  · intro other channel mem
    change ∃ consumer, site.registry.consumer? channel = some consumer
    change channel ∈ (Function.update before.threads thread .idle other).channels at mem
    rw [registry]
    by_cases same : other = thread
    · subst same
      simp [Thread.channels] at mem
    · rw [Function.update_of_ne same] at mem
      exact sound.listed other channel mem
  · change ∀ other ∈ _, _ → ∃ consumer, site.registry.consumer? _ = some consumer
    rw [registry]
    exact sound.served_set works.found
  · intro other held working
    apply working_set works.found
    exact sound.working_update (fun number => Thread.noConfusion) other held working
  · intro other held found open'
    rcases getElem?_set_cases found with ⟨-, isNew⟩ | ⟨differ, old⟩
    · rw [isNew] at open'
      cases open'
    · rcases sound.attended other held old open' with ⟨attendant, working⟩
      have apart : attendant ≠ thread := by
        rintro rfl
        rw [works.busy] at working
        cases working
        exact differ rfl
      exact ⟨attendant, (Function.update_of_ne apart ..).trans working⟩
  · intro handover mem
    change ∃ held, _ ∧ _ ∧ _ ∧ _ ∧ _ ∧ site.registry.consumer? _ = _
    rw [registry]
    exact handed_set works.found JobStage.noConfusion (sound.handed handover mem)
  · -- what a turn has taken is not dropped, so it has been with its consumer
    apply sound.given_set (List.Subset.refl _)
    intro byTurn
    have notDropped : result ≠ .dropped := by
      intro isDropped
      rw [kept isDropped] at byTurn
      cases byTurn
    have come : job.stage = .handed := works.come.trans (handed notDropped)
    exact sound.given number job works.found byTurn (by rw [come]; exact JobStage.noConfusion)
  · intro other mem
    rcases List.mem_or_eq_of_mem_set mem with old | rfl
    · exact sound.ended other old
    · refine ⟨?_, ?_⟩
      · intro isIdle
        cases isIdle
        exact counted rfl
      · intro isDropped
        cases isDropped
        exact kept rfl
  · intro entry mem
    simp only [settle] at mem
    split at mem
    · exact sound.returned entry mem
    · rename_i notDirect
      rcases List.mem_append.mp mem with old | new
      · exact sound.returned entry old
      · cases List.mem_singleton.mp new
        intro same
        cases same
        exact notDirect (kept rfl)
  · intro worker
    change Function.update before.tallies (owner thread) _ worker = _
    rw [settle, Tally.ofJobs_set_ended works.found unended, own]
    by_cases mine : worker = owner thread
    · subst mine
      rw [Function.update_self, if_pos rfl, sound.tallied]
    · rw [Function.update_of_ne mine, if_neg (Ne.symm mine), sound.tallied]

theorem step {after : Workshop} (sound : Sound owner before) (effect : Effect owner before after) :
    Sound owner after := by
  cases effect with
  | outside later grows queues => exact sound.outside later grows queues
  | rests free rests confined kept registry queues =>
      exact sound.rests free rests confined kept registry queues
  | takes free listed registry queues => exact sound.takes free listed registry queues
  | directs free => exact sound.directs free
  | hands works bound => exact sound.hands works bound
  | settles works underway counted dropped handed registry store =>
      exact sound.settles works underway counted dropped handed registry store

theorem run (sound : Sound owner before) (moves : List Move) :
    Sound owner (before.run owner moves) := by
  induction moves generalizing before with
  | nil => exact sound
  | cons move rest ih => exact ih (sound.step (effect_move before move))

end Sound

theorem sound_opening (owner : Nat → Nat) (now : Instant) (label : String)
    (settings : StoreSettings) (failingSends failingReceives : List Nat)
    (registry : Registry Consumer) :
    Sound owner (opening now label settings failingSends failingReceives registry) where
  books := fun channel => ⟨[], rfl, rfl, by simp, by simp⟩
  listed := by
    intro thread channel mem
    cases mem
  served := by
    intro job mem
    cases mem
  working := by
    intro thread number working
    cases working
  attended := by
    intro number job held
    cases held
  handed := by
    intro handover mem
    cases mem
  given := by
    intro number job held
    cases held
  once := List.nodup_nil
  ended := by
    intro job mem
    cases mem
  returned := by
    intro entry mem
    cases mem
  tallied := fun worker => rfl

end Workshop

end Courier
