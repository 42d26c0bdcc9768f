import Courier.Proofs.Program.Playing
import Courier.Proofs.Program.Within

/-!
# Sending to groups

A message for a group is sent to each of its members, in their order, whatever becomes of it at the
others. It reaches those members to which sending succeeds, each of them once, and the queues of all
other channels stay as they are.
-/

namespace Courier

/-! ## Attempts -/

namespace Program

theorem sendEach_cons (message : Message) (channel : String) (rest : List String) :
    sendEach message (channel :: rest) =
      .perform (.send channel message) fun result : Except ChannelError Unit =>
        match result with
        | .ok () => (sendEach message rest).bind fun count => .done (count + 1)
        | .error error =>
            .perform (.report (.warning ("Group delivery failed: " ++ error.message))) fun _ =>
              sendEach message rest := rfl

theorem steady_sendEach (message : Message) (channels : List String) :
    (sendEach message channels).Steady := by
  induction channels with
  | nil => trivial
  | cons channel rest ih =>
      rw [sendEach_cons]
      refine ⟨fun _ => nofun, ?_⟩
      intro result
      change Except ChannelError Unit at result
      match result with
      | .ok () => exact ih.bind fun _ => trivial
      | .error error => exact ⟨fun _ => nofun, fun _ => ih⟩

theorem steady_sendGroup (group : String) (message : Message) :
    (sendGroup group message).Steady :=
  ⟨fun _ => nofun, fun members => steady_sendEach message members⟩

/-- There is one attempt for each channel, and the successful ones are counted. -/
theorem attempts_sendEach {message : Message} {channels : List String} {trace : Trace}
    {count : Nat} (run : Run (sendEach message channels) trace (.done count)) :
    (trace.attempts.map fun attempt => (attempt.channel, attempt.message)) =
        channels.map (fun channel => (channel, message)) ∧
      count = trace.attempts.countP fun attempt => attempt.result.isOk := by
  induction channels generalizing trace count with
  | nil =>
      rcases run.done_inv with ⟨rfl, rfl⟩
      exact ⟨rfl, rfl⟩
  | cons channel rest ih =>
      rw [sendEach_cons] at run
      rcases run.perform_inv with ⟨result, tail, rfl, tailRun⟩
      change Except ChannelError Unit at result
      match result with
      | .ok () =>
          rcases tailRun.bind_inv with ⟨first, others, second, rfl, firstRun, secondRun⟩
          rcases secondRun.done_inv with ⟨rfl, rfl⟩
          rcases ih firstRun with ⟨each, counted⟩
          rw [List.append_nil, Trace.attempts_cons]
          simp [Performed.attempt?, each, counted, Except.isOk, Except.toBool]
      | .error error =>
          rcases tailRun.perform_inv with ⟨_, later, rfl, laterRun⟩
          rcases ih laterRun with ⟨each, counted⟩
          rw [Trace.attempts_cons, Trace.attempts_cons]
          simp [Performed.attempt?, each, counted, Except.isOk, Except.toBool]

end Program

namespace Trace

variable {trace : Trace}

/-- Where there is one attempt at most for each channel, a successful one is all that its channel
accepts. -/
theorem accepted_of_mem (distinct : (trace.attempts.map Attempt.channel).Nodup)
    {attempt : Attempt} (mem : attempt ∈ trace.attempts) (succeeded : attempt.result = .ok ()) :
    trace.accepted attempt.channel = [attempt.message] := by
  rw [accepted]
  generalize trace.attempts = attempts at distinct mem
  induction attempts with
  | nil => cases mem
  | cons first rest ih =>
      rcases List.nodup_cons.mp distinct with ⟨fresh, restDistinct⟩
      rcases List.mem_cons.mp mem with rfl | inRest
      · have nothing : rest.filterMap (Attempt.accepted? attempt.channel) = [] := by
          rw [List.filterMap_eq_nil_iff]
          intro other otherMem
          have differ : other.channel ≠ attempt.channel := by
            intro same
            exact fresh (same ▸ List.mem_map_of_mem otherMem)
          rw [Attempt.accepted?]
          split
          · exact if_neg differ
          · rfl
        have isAccepted : attempt.accepted? attempt.channel = some attempt.message := by
          rw [Attempt.accepted?, succeeded]
          exact if_pos rfl
        rw [List.filterMap_cons_some isAccepted, nothing]
      · have differ : first.channel ≠ attempt.channel := by
          intro same
          exact fresh (same ▸ List.mem_map_of_mem inRest)
        have notAccepted : first.accepted? attempt.channel = none := by
          rw [Attempt.accepted?]
          split
          · exact if_neg differ
          · rfl
        rw [List.filterMap_cons_none notAccepted]
        exact ih restDistinct inRest

theorem accepted_of_refused {channel : String}
    (refused : ∀ attempt ∈ trace.attempts, attempt.result = .ok () → attempt.channel ≠ channel) :
    trace.accepted channel = [] := by
  rw [accepted, List.filterMap_eq_nil_iff]
  intro attempt mem
  have elsewhere := refused attempt mem
  rw [Attempt.accepted?]
  split
  · rename_i succeeded
    exact if_neg (elsewhere succeeded)
  · rfl

end Trace

/-! ## Queues -/

namespace Store.Course

variable {before after : Store} {start finish : Instant} {accepted : String → List Message}
  {channel : String} {message : Message}

theorem live_of_nothing (course : Course before start finish accepted after)
    (nothing : accepted channel = []) {later : Instant} (le : finish ≤ later) :
    after.live later channel = before.live later channel := by
  rcases course.queues channel with ⟨added, isAdded, -, kept⟩
  rw [nothing, List.map_eq_nil_iff] at isAdded
  rw [live, live, kept later le, isAdded, List.append_nil]

theorem live_of_single (course : Course before start finish accepted after)
    (single : accepted channel = [message]) :
    ∃ expiresAt, start + before.settings.messageExpiry ≤ expiresAt ∧
      ∀ later, finish ≤ later → after.live later channel =
        before.live later channel ++ if later < expiresAt then [message] else [] := by
  rcases course.queues channel with ⟨added, isAdded, lives, kept⟩
  rw [single] at isAdded
  rcases List.map_eq_singleton_iff.mp isAdded with ⟨queued, rfl, rfl⟩
  refine ⟨queued.expiresAt, lives queued List.mem_cons_self, ?_⟩
  intro later le
  rw [live, live, kept later le, List.filter_append, List.map_append]
  congr 1
  by_cases alive : later < queued.expiresAt
  · rw [if_pos alive, List.filter_cons_of_pos (Queued.live_iff.mpr alive)]
    rfl
  · rw [if_neg alive, List.filter_cons_of_neg (mt Queued.live_iff.mp alive)]
    rfl

end Store.Course

/-! ## Groups -/

/-- A message is sent to each of some members, in order, and reaches those to which sending succeeds
and nobody else. -/
structure FansOut (site : Site) (now : Instant) (members : List String) (message : Message)
    (played : Site.Played Nat) : Prop where
  attempts : (played.trace.attempts.map fun attempt => (attempt.channel, attempt.message)) =
    members.map fun channel => (channel, message)
  count : played.value = played.trace.attempts.countP fun attempt => attempt.result.isOk
  /-- The message comes to the end of what is alive, as long as it is alive itself. -/
  reached : ∀ attempt ∈ played.trace.attempts, attempt.result = .ok () →
    ∃ expiresAt, now + site.backend.store.settings.messageExpiry ≤ expiresAt ∧
      ∀ later, played.now ≤ later → played.site.backend.store.live later attempt.channel =
        site.backend.store.live later attempt.channel ++
          if later < expiresAt then [message] else []
  spared : ∀ channel,
    (∀ attempt ∈ played.trace.attempts, attempt.result = .ok () → attempt.channel ≠ channel) →
      ∀ later, played.now ≤ later →
        played.site.backend.store.live later channel = site.backend.store.live later channel

namespace FansOut

variable {site : Site} {now : Instant} {members : List String} {message : Message}
  {played : Site.Played Nat}

theorem of_course
    (course : Store.Course site.backend.store now played.now
      (fun channel => played.trace.accepted channel) played.site.backend.store)
    (distinct : members.Nodup)
    (attempts : (played.trace.attempts.map fun attempt => (attempt.channel, attempt.message)) =
      members.map fun channel => (channel, message))
    (count : played.value = played.trace.attempts.countP fun attempt => attempt.result.isOk) :
    FansOut site now members message played := by
  have channels : played.trace.attempts.map Attempt.channel = members := by
    have first := congrArg (List.map Prod.fst) attempts
    simpa [Function.comp_def] using first
  refine ⟨attempts, count, ?_, ?_⟩
  · intro attempt mem succeeded
    have single := Trace.accepted_of_mem (channels ▸ distinct) mem succeeded
    have inMembers : (attempt.channel, attempt.message) ∈
        members.map fun channel => (channel, message) :=
      attempts ▸ List.mem_map_of_mem mem
    rcases List.mem_map.mp inMembers with ⟨channel, -, same⟩
    rw [← (Prod.mk.inj same).2] at single
    exact course.live_of_single single
  · intro channel refused later le
    exact course.live_of_nothing (Trace.accepted_of_refused refused) le

end FansOut

/-- Sending to a group fans out to its members, at whatever moments the single messages are sent. -/
theorem fansOut_sendGroup (site : Site) (now : Instant) (group : String) (message : Message)
    (delays : List Duration) :
    FansOut site now (site.backend.store.members now group).1 message
      (site.play now delays (Program.sendGroup group message)) := by
  have distinct : (site.backend.store.members now group).1.Nodup := by
    apply (site.backend.store.sorted_members now group).imp
    rintro first second below rfl
    exact String.lt_irrefl _ below
  -- Once the members are listed, what is left to play is a message to each of them.
  have each := Program.attempts_sendEach
    ((site.perform now (.members group)).2.run_played (now + delays.headD 0) delays.tail
      (Program.sendEach message (site.backend.store.members now group).1))
  exact .of_course (site.course_played now delays _) distinct each.1 each.2

end Courier
