import Courier.Clock
import Courier.Proofs.Session.Expiring
import Courier.Proofs.Store.Operations

/-!
# Where the end of a clock is not felt

A clock with a last moment is no different from one without an end as long as it can show every
moment that is needed. A call looks ahead by one of the times in the settings, so it has its answer
if the clock reaches that far, and so has every call of a run. What is proved of moments without an
end therefore holds on a platform wherever the last moment is never less than such a time ahead.

Where a call breaks down nothing is lost but what has expired. It can leave a queue without
messages, which cannot happen otherwise, but nobody finds any other messages afterwards.
-/

namespace Courier

namespace Clock

variable {clock : Clock} {store : Store} {now later : Instant}

theorem after?_of_le {duration : Duration} (reached : now + duration ≤ clock.last) :
    clock.after? now duration = some (now + duration) :=
  if_pos reached

theorem after?_of_lt {duration : Duration} (beyond : clock.last < now + duration) :
    clock.after? now duration = none :=
  if_neg (Nat.not_le.mpr beyond)

/-! ## Calls to a store -/

/-- Something that is asked of a store. -/
inductive Errand where
  | send (channel : String) (message : Message)
  | receive (channels : List String) (block : Bool)
  | resume (waiting : Waiting)
  | queued (channel : String)
  | flush
  | join (group channel : String)
  | leave (group channel : String)
  | members (group : String)

/-- What is answered. -/
inductive Answer where
  | sent (result : Except ChannelError Unit)
  | received (receipt : Receipt)
  | counted (number : Nat)
  | members (channels : List String)
  | done

/-- How far ahead an errand looks. -/
def Errand.span (settings : StoreSettings) : Errand → Duration
  | .send _ _ => settings.messageExpiry
  | .receive _ _ => settings.receiveTimeout
  | .join _ _ => settings.groupExpiry
  | .resume _ | .queued _ | .flush | .leave _ _ | .members _ => 0

/-- The answer where moments have no end. -/
def answerOf (store : Store) (now : Instant) : Errand → Answer × Store
  | .send channel message => (store.send now channel message).map .sent id
  | .receive channels block => (store.receive now channels block).map .received id
  | .resume waiting => (store.resume now waiting).map .received id
  | .queued channel => (.counted (store.queued now channel), store)
  | .flush => (.done, store.flush)
  | .join group channel => (.done, store.join now group channel)
  | .leave group channel => (.done, store.leave group channel)
  | .members group => (store.members now group).map .members id

/-- The answer by a clock, unless the errand breaks down. -/
def answer (clock : Clock) (store : Store) (now : Instant) : Errand → Option Answer × Store
  | .send channel message => (clock.send store now channel message).map (Option.map .sent) id
  | .receive channels block =>
      (clock.receive store now channels block).map (Option.map .received) id
  | .join group channel => (clock.join store now group channel).map (Option.map fun _ => .done) id
  | errand => (answerOf store now errand).map some id

/-! ### Errands that are answered -/

theorem push_eq {channel : String} {message : Message}
    (reached : now + store.settings.messageExpiry ≤ clock.last) :
    clock.push store now channel message = (store.push now channel message).map some id := by
  simp only [push, Store.push, after?_of_le reached]
  split
  · rfl
  · rfl

theorem send_eq {channel : String} {message : Message}
    (reached : now + store.settings.messageExpiry ≤ clock.last) :
    clock.send store now channel message = (store.send now channel message).map some id := by
  rw [send, push_eq reached, Store.send]
  rcases store.push now channel message with ⟨_ | _, after⟩
  · rfl
  · rfl

theorem receive_eq {channels : List String} {block : Bool}
    (reached : now + store.settings.receiveTimeout ≤ clock.last) :
    clock.receive store now channels block = (store.receive now channels block).map some id := by
  simp only [receive, Store.receive, after?_of_le reached]
  split
  · rfl
  · have same := Store.settings_take store now channels
    rcases taken : store.take now channels with ⟨_ | ⟨channel, message⟩, after⟩
    · -- the deadline is fixed before the look, by settings that the look does not change
      rw [taken] at same
      dsimp only at same ⊢
      rw [same]
      cases block <;> rfl
    · rfl

theorem join_eq {group channel : String}
    (reached : now + store.settings.groupExpiry ≤ clock.last) :
    clock.join store now group channel = (some (), store.join now group channel) := by
  rw [join, after?_of_le reached]
  rfl

/-- An errand is answered as if moments had no end if the clock reaches as far as it looks. -/
theorem answer_eq {errand : Errand}
    (reached : now + errand.span store.settings ≤ clock.last) :
    clock.answer store now errand = (answerOf store now errand).map some id := by
  cases errand with
  | send channel message => rw [answer, send_eq reached]; rfl
  | receive channels block => rw [answer, receive_eq reached]; rfl
  | join group channel => rw [answer, join_eq reached]; rfl
  | resume | queued | flush | leave | members => rfl

theorem settings_answerOf (store : Store) (now : Instant) (errand : Errand) :
    (answerOf store now errand).2.settings = store.settings := by
  cases errand with
  | send channel message => exact (store.send_eq now channel message).2.1
  | receive channels block => exact Store.settings_receive store now channels block
  | resume waiting => exact Store.settings_resume store now waiting
  | queued | flush | join | leave | members => rfl

/-! ### Errands that break down -/

/-- What an errand leaves behind that has broken down: some queues may have lost expired messages,
and everything else is as it was. -/
structure Breaks (now : Instant) (store after : Store) : Prop where
  queues : ∀ channel, QueueStep now (store.queue channel) none none (after.queue channel)
  groups : after.groups = store.groups
  announcements : after.announcements = store.announcements
  settings : after.settings = store.settings

theorem Breaks.refl (now : Instant) (store : Store) : Breaks now store store :=
  ⟨fun _ => .refl now _, rfl, rfl, rfl⟩

/-- Nobody misses anything afterwards. -/
theorem Breaks.live_eq {after : Store} (breaks : Breaks now store after) (le : now ≤ later)
    (channel : String) : after.live later channel = store.live later channel :=
  congrArg (List.map Queued.message) ((breaks.queues channel).filter_live_of_le le)

/-- What an errand needs a moment ahead for, if it does: a message that comes into its queue, a
receiver that has channels to look at, or a membership. -/
def Errand.Needs (store : Store) (now : Instant) : Errand → Prop
  | .send channel _ => Store.full store.settings (Store.trim now (store.queue channel)) = false
  | .receive channels _ => channels ≠ []
  | .join _ _ => True
  | .resume _ | .queued _ | .flush | .leave _ _ | .members _ => False

theorem send_of_lt {channel : String} {message : Message}
    (beyond : clock.last < now + store.settings.messageExpiry)
    (room : Store.full store.settings (Store.trim now (store.queue channel)) = false) :
    clock.send store now channel message =
      (none,
        { store with
          queues := store.queues.insert channel (Store.trim now (store.queue channel)) }) := by
  simp only [send, push, after?_of_lt beyond, room]
  rfl

/-- A message that would expire beyond the last moment leaves an empty queue. -/
example : (Clock.mk 9).send { settings := { messageExpiry := 10 } } 0 "a" ⟨[]⟩ =
    (none, { settings := { messageExpiry := 10 }, queues := [("a", [])] }) := rfl

theorem send_of_full {channel : String} {message : Message}
    (isFull : Store.full store.settings (Store.trim now (store.queue channel)) = true) :
    clock.send store now channel message = (store.send now channel message).map some id := by
  simp only [send, push, Store.send, Store.push, isFull]
  rfl

theorem receive_of_lt {channels : List String} (present : channels ≠ []) (block : Bool)
    (beyond : clock.last < now + store.settings.receiveTimeout) :
    clock.receive store now channels block = (none, store) := by
  have nonempty : channels.isEmpty = false := List.isEmpty_eq_false_iff.mpr present
  simp only [receive, nonempty, after?_of_lt beyond]
  rfl

theorem join_of_lt (group channel : String)
    (beyond : clock.last < now + store.settings.groupExpiry) :
    clock.join store now group channel = (none, store) := by
  rw [join, after?_of_lt beyond]

theorem breaks_trim (store : Store) (now : Instant) (channel : String) :
    Breaks now store
      { store with
        queues := store.queues.insert channel (Store.trim now (store.queue channel)) } := by
  refine ⟨?_, rfl, rfl, rfl⟩
  intro other
  by_cases same : other = channel
  · subst same
    rw [Store.queue_insert_self]
    rcases Store.trim_split now (store.queue other) with ⟨gone, split, expired⟩
    conv => arg 2; rw [split]
    exact .dropped expired
  · rw [Store.queue_insert_of_ne store channel same]
    exact .refl now _

theorem answer_of_lt {errand : Errand} (needs : errand.Needs store now)
    (beyond : clock.last < now + errand.span store.settings) :
    (clock.answer store now errand).1 = none ∧
      Breaks now store (clock.answer store now errand).2 := by
  cases errand with
  | send channel message =>
      rw [answer, send_of_lt beyond needs]
      exact ⟨rfl, breaks_trim store now channel⟩
  | receive channels block =>
      rw [answer, receive_of_lt needs block beyond]
      exact ⟨rfl, .refl now store⟩
  | join group channel =>
      rw [answer, join_of_lt group channel beyond]
      exact ⟨rfl, .refl now store⟩
  | resume | queued | flush | leave | members => cases needs

theorem answer_of_not_needs {errand : Errand} (free : ¬errand.Needs store now) :
    clock.answer store now errand = (answerOf store now errand).map some id := by
  cases errand with
  | send channel message =>
      rw [answer, send_of_full (Bool.eq_true_of_not_eq_false free)]
      rfl
  | receive channels block =>
      have empty : channels = [] := Classical.not_not.mp free
      rw [empty]
      rfl
  | join group channel => exact absurd trivial free
  | resume | queued | flush | leave | members => rfl

/-- An errand breaks down if it needs a moment that the clock cannot show, and only then. -/
theorem answer_eq_none_iff {errand : Errand} :
    (clock.answer store now errand).1 = none ↔
      errand.Needs store now ∧ clock.last < now + errand.span store.settings := by
  constructor
  · intro broken
    refine ⟨?_, ?_⟩
    · by_contra free
      rw [answer_of_not_needs free] at broken
      cases broken
    · by_contra reached
      rw [answer_eq (Nat.not_lt.mp reached)] at broken
      cases broken
  · rintro ⟨needs, beyond⟩
    exact (answer_of_lt needs beyond).1

/-- What an errand leaves behind that has broken down. -/
theorem breaks_of_none {errand : Errand} (broken : (clock.answer store now errand).1 = none) :
    Breaks now store (clock.answer store now errand).2 := by
  rcases answer_eq_none_iff.mp broken with ⟨needs, beyond⟩
  exact (answer_of_lt needs beyond).2

/-! ### Runs -/

/-- The answers where moments have no end, and the store behind them. -/
def answersOf (store : Store) : List (Instant × Errand) → List Answer × Store
  | [] => ([], store)
  | (now, errand) :: rest =>
      let (first, store) := answerOf store now errand
      (answersOf store rest).map (first :: ·) id

/-- The answers by a clock; an errand that breaks down leaves what it has done to the next ones. -/
def answers (clock : Clock) (store : Store) :
    List (Instant × Errand) → List (Option Answer) × Store
  | [] => ([], store)
  | (now, errand) :: rest =>
      let (first, store) := clock.answer store now errand
      (clock.answers store rest).map (first :: ·) id

/-- A clock that reaches as far as every errand looks answers all of them, as if moments had no
end. -/
theorem answers_eq {errands : List (Instant × Errand)}
    (reached : ∀ errand ∈ errands, errand.1 + errand.2.span store.settings ≤ clock.last) :
    clock.answers store errands = (answersOf store errands).map (List.map some) id := by
  induction errands generalizing store with
  | nil => rfl
  | cons errand rest ih =>
      rcases errand with ⟨now, errand⟩
      have first : clock.answer store now errand = (answerOf store now errand).map some id :=
        answer_eq (reached (now, errand) List.mem_cons_self)
      have others : ∀ other ∈ rest,
          other.1 + other.2.span (answerOf store now errand).2.settings ≤ clock.last := by
        rw [settings_answerOf]
        exact fun other mem => reached other (List.mem_cons_of_mem _ mem)
      rw [answers, first]
      dsimp only [Prod.map]
      rw [id, ih others]
      rfl

/-! ## Sessions -/

variable {sessions : SessionStore} {key : String} {data : SessionData}

theorem save_eq (reached : now + sessions.lifetime ≤ clock.last) :
    clock.save sessions now key data = (some (), sessions.save now key data) := by
  simp only [save, SessionStore.prune, after?_of_le reached]
  rfl

/-- What is left by a session that could not be saved: expired ones are gone. -/
theorem save_of_lt (beyond : clock.last < now + sessions.lifetime) :
    clock.save sessions now key data = (none, (sessions.prune now).2) := by
  simp only [save, SessionStore.prune, after?_of_lt beyond]

/-- Whatever is loaded afterwards is what it would have been. -/
theorem load_of_lt (distinct : sessions.sessions.Distinct)
    (beyond : clock.last < now + sessions.lifetime) (le : now ≤ later) (other : String) :
    ((clock.save sessions now key data).2.load later other).1 = (sessions.load later other).1 := by
  rw [save_of_lt beyond]
  exact (SessionStore.lapses_prune distinct now other).load_eq le

/-- Does something with a store of sessions, unless it breaks down. -/
def act (clock : Clock) (sessions : SessionStore) (now : Instant) :
    SessionStore.Call → Option Unit × SessionStore
  | .save key data => clock.save sessions now key data
  | call => (some (), sessions.act now call)

theorem act_eq {call : SessionStore.Call} (reached : now + sessions.lifetime ≤ clock.last) :
    clock.act sessions now call = (some (), sessions.act now call) := by
  cases call with
  | save key data => exact save_eq reached
  | load | contains | delete | prune => rfl

/-- A clock that reaches as far as sessions live does with them what would be done if moments had no
end. -/
theorem foldl_act_eq {calls : List (Instant × SessionStore.Call)}
    (reached : ∀ call ∈ calls, call.1 + sessions.lifetime ≤ clock.last) :
    calls.foldl (fun sessions call => (clock.act sessions call.1 call.2).2) sessions =
      calls.foldl (fun sessions call => sessions.act call.1 call.2) sessions := by
  induction calls generalizing sessions with
  | nil => rfl
  | cons call rest ih =>
      rw [List.foldl_cons, List.foldl_cons, act_eq (reached call List.mem_cons_self)]
      apply ih
      intro other mem
      rw [SessionStore.act_lifetime]
      exact reached other (List.mem_cons_of_mem call mem)

end Clock

end Courier
