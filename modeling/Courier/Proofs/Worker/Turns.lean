import Courier.Proofs.Worker.Workshop

/-!
# Turns in a workshop

A worker that is alone makes a whole turn before anybody else comes to act, and hands a message to a
consumer directly just so. In a workshop the same is done by moves: those of the thread, and those by
which the consumer sends and does what else its program says. So whatever holds of all series of moves
holds of workers that make turns.
-/

namespace Courier.Workshop

variable {owner : Nat → Nat} {before after workshop : Workshop} {thread number : Nat} {job : Job}

/-! ## Programs -/

/-- Nothing that concerns the workers is different, and no time has passed. -/
structure Undisturbed (before after : Workshop) : Prop where
  now : after.now = before.now
  threads : after.threads = before.threads
  tallies : after.tallies = before.tallies
  jobs : after.jobs = before.jobs
  returns : after.returns = before.returns

theorem Undisturbed.trans {between : Workshop} (first : Undisturbed before between)
    (second : Undisturbed between after) : Undisturbed before after :=
  ⟨second.now.trans first.now, second.threads.trans first.threads,
    second.tallies.trans first.tallies, second.jobs.trans first.jobs,
    second.returns.trans first.returns⟩

/-- What a consumer does to the site is done by moves that do not concern the workers. -/
def Brings (owner : Nat → Nat) (workshop : Workshop) (site : Site) : Prop :=
  ∃ moves, Undisturbed workshop (workshop.run owner moves) ∧
    (workshop.run owner moves).site = site

theorem Brings.refl (workshop : Workshop) : Brings owner workshop workshop.site :=
  ⟨[], ⟨rfl, rfl, rfl, rfl, rfl⟩, rfl⟩

theorem brings_elsewhere (sessions : SessionStore) (supply : Supply) (groups : Assoc (Dict Instant))
    (log : List LogEntry) (notes : List (String × Message)) :
    Brings owner workshop (workshop.move owner (.elsewhere sessions supply groups log notes)).site :=
  ⟨[.elsewhere sessions supply groups log notes], ⟨rfl, rfl, rfl, rfl, rfl⟩, rfl⟩

theorem brings_send (channel : String) (message : Message) :
    Brings owner workshop
      { workshop.site with
        backend := (workshop.site.backend.send workshop.now channel message).2 } := by
  rw [workshop.site.backend.send_eq_push]
  rcases outcome : workshop.site.backend.push workshop.now channel message with ⟨_ | _, backend⟩
  · refine ⟨[.push channel message], ?_⟩
    rw [run, List.foldl_cons, List.foldl_nil, move, outcome]
    exact ⟨⟨rfl, rfl, rfl, rfl, rfl⟩, rfl⟩
  · -- the message is pushed by one move and announced by another
    refine ⟨[.push channel message, .announce], ?_⟩
    rw [run, List.foldl_cons, List.foldl_cons, List.foldl_nil, move, outcome]
    exact ⟨⟨rfl, rfl, rfl, rfl, rfl⟩, rfl⟩

theorem brings_perform (action : Action) :
    Brings owner workshop (workshop.site.perform workshop.now action).2 := by
  cases action with
  | send channel message => exact brings_send channel message
  | pause duration => exact .refl workshop
  | members _ | report _ | record _ _ | loadSession _ | saveSession _ _ | freshKey =>
      apply brings_elsewhere

theorem brings_run (program : Program Outcome) :
    Brings owner workshop (workshop.site.run workshop.now program).2 := by
  induction program generalizing workshop with
  | done value => exact .refl workshop
  | perform action next ih =>
      have goOn : ∀ answer site, Brings owner workshop site →
          Brings owner workshop (site.run workshop.now (next answer)).2 := by
        rintro answer site ⟨moves, undisturbed, isSite⟩
        rcases @ih answer (workshop.run owner moves) with ⟨more, later, isLater⟩
        rw [undisturbed.now, isSite] at isLater
        refine ⟨moves ++ more, ?_⟩
        rw [run_append]
        exact ⟨undisturbed.trans later, isLater⟩
      cases action with
      | pause duration => exact .refl workshop
      | send channel message =>
          exact goOn (workshop.site.backend.send workshop.now channel message).1 _
            (brings_perform (.send channel message))
      | members group => exact goOn _ _ (brings_perform (.members group))
      | report entry => exact goOn _ _ (brings_perform (.report entry))
      | record channel message => exact goOn _ _ (brings_perform (.record channel message))
      | loadSession key => exact goOn _ _ (brings_perform (.loadSession key))
      | saveSession key data => exact goOn _ _ (brings_perform (.saveSession key data))
      | freshKey => exact goOn _ _ (brings_perform .freshKey)

/-! ## Turns -/

/-- A thread has come as far as a turn, or as a job that was brought directly. -/
def InTurn (workshop : Workshop) (thread : Nat) (direct : Bool) : Turn → Prop
  | .receiving waiting => workshop.threads thread = .waiting waiting
  | .consuming _ _ => ∃ number job, workshop.threads thread = .working number ∧
      workshop.jobs[number]? = some job ∧ job.stage = .handed ∧ job.direct = direct
  | .ended result => workshop.threads thread = .idle ∧
      (direct = false → ∃ earlier, workshop.returns = earlier ++ [(thread, result)])

/-- A thread has come as far as a turn, with the tally and the site of the turn, and no time has
passed. -/
structure Reaches (owner : Nat → Nat) (now : Instant) (thread : Nat) (direct : Bool)
    (turn : Turn × Tally × Site) (workshop : Workshop) : Prop where
  inTurn : workshop.InTurn thread direct turn.1
  tally : workshop.tallies (owner thread) = turn.2.1
  site : workshop.site = turn.2.2
  now : workshop.now = now

/-- By moves of anybody, a thread comes as far as a turn. -/
def Leads (owner : Nat → Nat) (workshop : Workshop) (thread : Nat) (direct : Bool)
    (turn : Turn × Tally × Site) : Prop :=
  ∃ moves, Reaches owner workshop.now thread direct turn (workshop.run owner moves)

theorem Leads.cons {direct : Bool} {turn : Turn × Tally × Site} (first : Move) {next : Workshop}
    (moved : workshop.move owner first = next) (now : next.now = workshop.now)
    (leads : Leads owner next thread direct turn) : Leads owner workshop thread direct turn := by
  rcases leads with ⟨moves, reached⟩
  refine ⟨first :: moves, ?_⟩
  rw [run, List.foldl_cons, moved, ← now]
  exact reached

theorem jobAt?_of_works {stage : JobStage} (busy : workshop.threads thread = .working number)
    (found : workshop.jobs[number]? = some job) (come : job.stage = stage) :
    workshop.jobAt? thread stage = some (number, job) := by
  simp [jobAt?, busy, found, come]

theorem leads_follow (busy : workshop.threads thread = .working number)
    (found : workshop.jobs[number]? = some job) (come : job.stage = .handed)
    (program : Program Outcome) :
    Leads owner workshop thread job.direct
      (Turn.follow workshop.site workshop.now (workshop.tallies (owner thread)) program) := by
  rcases @brings_run owner workshop program with ⟨moves, undisturbed, isSite⟩
  rw [Turn.follow]
  generalize workshop.site.run workshop.now program = progress at isSite ⊢
  rcases progress with ⟨outcome | ⟨wakeAt, rest⟩, site⟩
  · -- one more move lets the thread go
    refine ⟨moves ++ [.finish thread outcome], ?_⟩
    rw [run_append]
    generalize workshop.run owner moves = between at undisturbed isSite ⊢
    have at? : between.jobAt? thread .handed = some (number, job) := by
      apply jobAt?_of_works _ _ come
      · rw [undisturbed.threads, busy]
      · rw [undisturbed.jobs, found]
    rw [run, List.foldl_cons, List.foldl_nil, move, at?]
    refine ⟨⟨Function.update_self .., ?_⟩, ?_, ?_, undisturbed.now⟩
    · intro direct
      exact ⟨between.returns, by simp [settle, direct]⟩
    · rw [← undisturbed.tallies]
      exact Function.update_self ..
    · change between.site = site at isSite
      subst isSite
      rfl
  · refine ⟨moves, ⟨number, job, ?_, ?_, come, rfl⟩, ?_, isSite, undisturbed.now⟩
    · rw [undisturbed.threads, busy]
    · rw [undisturbed.jobs, found]
    · rw [undisturbed.tallies]

theorem leads_dispatch (busy : workshop.threads thread = .working number)
    (found : workshop.jobs[number]? = some job) (come : job.stage = .taken) :
    Leads owner workshop thread job.direct
      (Turn.dispatch workshop.site workshop.now (workshop.tallies (owner thread)) job.channel
        job.message) := by
  have moved : workshop.move owner (.hand thread) = workshop.hand owner thread number job := by
    simp only [move, jobAt?_of_works busy found come]
  rw [hand] at moved
  rw [Turn.dispatch]
  cases bound : workshop.site.registry.consumer? job.channel with
  | none =>
      rw [bound] at moved
      refine Leads.cons _ moved rfl ⟨[], ⟨Function.update_self .., ?_⟩, ?_, rfl, rfl⟩
      · intro direct
        exact ⟨workshop.returns, by simp [run, settle, direct]⟩
      · exact Function.update_self ..
  | some consumer =>
      rw [bound] at moved
      apply Leads.cons _ moved rfl
      have handed : (workshop.jobs.set number { job with stage := .handed })[number]? =
          some { job with stage := .handed } :=
        List.getElem?_set_self (List.getElem?_eq_some_iff.mp found).1
      exact @leads_follow owner
        { workshop with
          jobs := workshop.jobs.set number { job with stage := .handed }
          handovers := workshop.handovers ++
            [⟨number, job.direct, job.channel, job.message, consumer⟩] }
        thread number { job with stage := .handed } busy handed rfl _

theorem leads_accept (receipt : Receipt) :
    Leads owner (workshop.accept owner thread receipt) thread false
      (Turn.accept workshop.site workshop.now (workshop.tallies (owner thread)) receipt) := by
  cases receipt with
  | nothing =>
      exact ⟨[], ⟨Function.update_self .., fun _ => ⟨workshop.returns, rfl⟩⟩, rfl, rfl, rfl⟩
  | waiting left => exact ⟨[], Function.update_self .., rfl, rfl, rfl⟩
  | received channel message =>
      have counted : (workshop.accept owner thread (.received channel message)).tallies
          (owner thread) = (workshop.tallies (owner thread)).countReceived :=
        Function.update_self ..
      have leads := @leads_dispatch owner (workshop.accept owner thread (.received channel message))
        thread workshop.jobs.length { worker := owner thread, direct := false, channel, message }
        (Function.update_self ..) List.getElem?_concat_length rfl
      rw [counted] at leads
      exact leads

/-- A thread makes a turn, up to where it has to wait. -/
theorem leads_start (idle : workshop.threads thread = .idle) (settings : WorkerSettings) :
    Leads owner workshop thread false
      (Turn.start settings workshop.site workshop.now (workshop.tallies (owner thread))) := by
  have started : workshop.move owner (.start thread) = workshop.start thread := rfl
  simp only [start, idle] at started
  rw [Turn.start]
  by_cases unbound : workshop.site.registry.channels.isEmpty = true
  · simp only [unbound, if_true] at started ⊢
    exact Leads.cons _ started rfl
      ⟨[], ⟨Function.update_self .., fun _ => ⟨workshop.returns, rfl⟩⟩, rfl, rfl, rfl⟩
  · simp only [unbound] at started ⊢
    apply Leads.cons _ started rfl
    generalize informed : workshop.withThread thread (.informed workshop.site.registry.channels) =
      between
    have station : between.threads thread = .informed workshop.site.registry.channels := by
      rw [← informed]
      exact Function.update_self ..
    have site : between.site = workshop.site := by rw [← informed]; rfl
    have now : between.now = workshop.now := by rw [← informed]; rfl
    have tallies : between.tallies = workshop.tallies := by rw [← informed]; rfl
    have looked : between.move owner
        (.look thread workshop.site.registry.channels settings.block) =
        between.look owner thread workshop.site.registry.channels settings.block := by
      simp only [move, station]
      exact if_pos (List.Perm.refl _)
    simp only [look, station] at looked
    rw [← site, ← now, ← tallies]
    rw [← site] at looked
    rcases received : between.site.backend.receive between.now between.site.registry.channels
      settings.block with ⟨error | receipt, backend⟩
    · rw [received] at looked
      exact Leads.cons _ looked rfl
        ⟨[], ⟨Function.update_self .., fun _ => ⟨between.returns, rfl⟩⟩, rfl, rfl, rfl⟩
    · rw [received] at looked
      apply Leads.cons _ looked
      · cases receipt <;> rfl
      · exact leads_accept receipt

/-- A thread goes on with its turn. -/
theorem leads_resume {turn : Turn} {direct : Bool} (inTurn : workshop.InTurn thread direct turn)
    (byTurn : direct = false ∨ ∀ waiting, turn ≠ .receiving waiting) :
    Leads owner workshop thread direct
      (turn.resume workshop.site workshop.now (workshop.tallies (owner thread))) := by
  cases turn with
  | ended result => exact ⟨[], inTurn, rfl, rfl, rfl⟩
  | receiving waiting =>
      rcases byTurn with rfl | other
      · have station : workshop.threads thread = .waiting waiting := inTurn
        have looked : workshop.move owner (.look thread waiting.channels true) =
            workshop.look owner thread waiting.channels true := by
          simp only [move, station]
          exact if_pos (List.Perm.refl _)
        simp only [look, station] at looked
        rw [Turn.resume]
        apply Leads.cons _ looked
        · cases (workshop.site.backend.resume workshop.now waiting).1 <;> rfl
        · exact leads_accept _
      · exact absurd rfl (other waiting)
  | consuming wakeAt rest =>
      rcases inTurn with ⟨number, job, busy, found, come, rfl⟩
      rw [Turn.resume]
      split
      · exact leads_follow busy found come rest
      · exact ⟨[], ⟨number, job, busy, found, come, rfl⟩, rfl, rfl, rfl⟩

/-- A message is handed to its consumer directly. -/
theorem leads_direct (idle : workshop.threads thread = .idle) (channel : String)
    (message : Message) :
    Leads owner workshop thread true
      (Turn.dispatch workshop.site workshop.now (workshop.tallies (owner thread)) channel
        message) := by
  have begun : workshop.move owner (.direct thread channel message) =
      workshop.begin thread { worker := owner thread, direct := true, channel, message } := by
    simp only [move, idle]
  apply Leads.cons _ begun rfl
  exact @leads_dispatch owner
    (workshop.begin thread { worker := owner thread, direct := true, channel, message }) thread
    workshop.jobs.length { worker := owner thread, direct := true, channel, message }
    (Function.update_self ..) List.getElem?_concat_length rfl

end Courier.Workshop
