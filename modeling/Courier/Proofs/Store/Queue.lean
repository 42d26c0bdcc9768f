import Courier.Store.Basic
import Mathlib.Data.List.TakeWhile

/-!
# What happens to a queue

Whatever a store does to the queue of a channel has one shape: some expired messages go from the
front, and then at most one message is added at the end or taken from the front. `QueueStep` is that
shape, and everything that is known of queues over a whole run is derived from it.

`QueueStep.settle` is the conservation law. A message that leaves a queue was either delivered while
it was alive or had expired, and the messages that leave stand in front of those that stay. This is
why deliveries come in the order of acceptance, and no message is delivered twice.
-/

namespace Courier

/-- What became of a message that no longer waits. -/
inductive Fate where
  | delivered
  | expired
  | flushed
  deriving DecidableEq, Repr

/-- Messages that no longer wait, in the order of their acceptance, with their fates. -/
abbrev Ledger := List (Queued × Fate)

namespace Ledger

/-- The messages of a ledger, whatever became of them. -/
def entries (ledger : Ledger) : List Queued := ledger.map Prod.fst

/-- The delivered messages of a ledger. -/
def delivered (ledger : Ledger) : List Message :=
  (ledger.filter fun entry => entry.2 = .delivered).map fun entry => entry.1.message

/-- A ledger in which every message has the same fate. -/
def uniform (fate : Fate) (queue : List Queued) : Ledger := queue.map fun queued => (queued, fate)

@[simp]
theorem entries_append (first second : Ledger) :
    entries (first ++ second) = first.entries ++ second.entries := by
  simp [entries]

@[simp]
theorem delivered_append (first second : Ledger) :
    delivered (first ++ second) = first.delivered ++ second.delivered := by
  simp [delivered]

@[simp]
theorem entries_uniform (fate : Fate) (queue : List Queued) :
    (uniform fate queue).entries = queue := by
  simp [entries, uniform, Function.comp_def]

theorem delivered_uniform {fate : Fate} (other : fate ≠ .delivered) (queue : List Queued) :
    (uniform fate queue).delivered = [] := by
  simp [delivered, uniform, other]

@[simp]
theorem mem_uniform {fate : Fate} {queue : List Queued} {entry : Queued × Fate} :
    entry ∈ uniform fate queue ↔ entry.1 ∈ queue ∧ entry.2 = fate := by
  rcases entry with ⟨queued, other⟩
  simp only [uniform, List.mem_map, Prod.mk.injEq]
  constructor
  · rintro ⟨found, mem, rfl, rfl⟩
    exact ⟨mem, rfl⟩
  · rintro ⟨mem, rfl⟩
    exact ⟨queued, mem, rfl, rfl⟩

theorem delivered_sublist (ledger : Ledger) :
    ledger.delivered.Sublist (ledger.entries.map Queued.message) := by
  rw [delivered, entries, List.map_map]
  exact List.filter_sublist.map _

end Ledger

/-- A queue before and after an operation at some moment, with the message that was added to it
and the one that was taken from it. -/
inductive QueueStep (now : Instant) :
    List Queued → Option Queued → Option Message → List Queued → Prop where
  | dropped {gone kept : List Queued} (expired : ∀ queued ∈ gone, queued.live now = false) :
      QueueStep now (gone ++ kept) none none kept
  | added {gone kept : List Queued} (expired : ∀ queued ∈ gone, queued.live now = false)
      (queued : Queued) : QueueStep now (gone ++ kept) (some queued) none (kept ++ [queued])
  | taken {gone kept : List Queued} (expired : ∀ queued ∈ gone, queued.live now = false)
      {queued : Queued} (alive : queued.live now = true) :
      QueueStep now (gone ++ queued :: kept) none (some queued.message) kept

/-- The messages of a queue expire in the order in which they stand, none later than `latest`. -/
structure Timely (latest : Instant) (queue : List Queued) : Prop where
  sorted : queue.Pairwise fun first second => first.expiresAt ≤ second.expiresAt
  bounded : ∀ queued ∈ queue, queued.expiresAt ≤ latest

namespace Queued

theorem live_iff {now : Instant} {queued : Queued} :
    queued.live now = true ↔ now < queued.expiresAt := by
  simp [live]

theorem not_live_iff {now : Instant} {queued : Queued} :
    queued.live now = false ↔ queued.expiresAt ≤ now := by
  simp [live]

theorem live_of_le {earlier later : Instant} (le : earlier ≤ later) {queued : Queued}
    (alive : queued.live later = true) : queued.live earlier = true := by
  rw [live_iff] at alive ⊢
  exact Nat.lt_of_le_of_lt le alive

end Queued

/-- To keep what is alive now and then what is alive later is to keep what is alive later. -/
theorem filter_live_filter_live {earlier later : Instant} (le : earlier ≤ later)
    (queue : List Queued) :
    (queue.filter (Queued.live earlier)).filter (Queued.live later) =
      queue.filter (Queued.live later) := by
  rw [List.filter_filter]
  apply List.filter_congr
  intro queued _
  by_cases alive : queued.live later = true
  · simp [alive, Queued.live_of_le le alive]
  · simp [alive]

theorem filter_live_of_expired {now : Instant} {gone : List Queued}
    (expired : ∀ queued ∈ gone, queued.live now = false) :
    gone.filter (Queued.live now) = [] := by
  rw [List.filter_eq_nil_iff]
  intro queued mem
  simp [expired queued mem]

namespace Timely

theorem nil (latest : Instant) : Timely latest [] :=
  ⟨List.Pairwise.nil, fun _ mem => absurd mem List.not_mem_nil⟩

theorem mono {earlier later : Instant} (le : earlier ≤ later) {queue : List Queued}
    (timely : Timely earlier queue) : Timely later queue :=
  ⟨timely.sorted, fun queued mem => Nat.le_trans (timely.bounded queued mem) le⟩

theorem of_append_right {latest : Instant} {gone kept : List Queued}
    (timely : Timely latest (gone ++ kept)) : Timely latest kept :=
  ⟨(List.pairwise_append.mp timely.sorted).2.1,
    fun queued mem => timely.bounded queued (List.mem_append_right gone mem)⟩

/-- The message that expires last may be added at the end. -/
theorem append_latest {latest : Instant} {queue : List Queued} (timely : Timely latest queue)
    (message : Message) : Timely latest (queue ++ [⟨message, latest⟩]) := by
  refine ⟨List.pairwise_append.mpr ⟨timely.sorted, List.pairwise_singleton _ _, ?_⟩, ?_⟩
  · intro first firstMem second secondMem
    simp only [List.mem_singleton] at secondMem
    subst second
    exact timely.bounded first firstMem
  · intro queued mem
    simp only [List.mem_append, List.mem_singleton] at mem
    rcases mem with old | rfl
    · exact timely.bounded queued old
    · exact Nat.le_refl _

/-- Behind a live message of a sorted queue everything is alive. -/
theorem filter_live_tail {latest now : Instant} {queued : Queued} {rest : List Queued}
    (timely : Timely latest (queued :: rest)) (alive : queued.live now = true) :
    rest.filter (Queued.live now) = rest := by
  rw [List.filter_eq_self]
  intro other mem
  rw [Queued.live_iff] at alive ⊢
  exact Nat.lt_of_lt_of_le alive ((List.pairwise_cons.mp timely.sorted).1 other mem)

end Timely

namespace QueueStep

variable {now : Instant} {before after : List Queued}

theorem refl (now : Instant) (queue : List Queued) : QueueStep now queue none none queue :=
  @dropped now [] queue (by simp)

/-- Messages of an untouched or trimmed queue that are alive stay in it. -/
theorem filter_live_of_dropped (step : QueueStep now before none none after) :
    after.filter (Queued.live now) = before.filter (Queued.live now) := by
  cases step with
  | dropped expired => simp [filter_live_of_expired expired]

theorem filter_live_of_le (step : QueueStep now before none none after) {later : Instant}
    (le : now ≤ later) :
    after.filter (Queued.live later) = before.filter (Queued.live later) := by
  rw [← filter_live_filter_live le after, step.filter_live_of_dropped,
    filter_live_filter_live le before]

/-- The conservation law: what was in the queue or came to it has left it with a fate, in order,
or is in it. -/
theorem settle {added : Option Queued} {taken : Option Message}
    (step : QueueStep now before added taken after) :
    ∃ ledger : Ledger, before ++ added.toList = ledger.entries ++ after ∧
      ledger.delivered = taken.toList ∧
      ∀ entry ∈ ledger, (entry.2 = .delivered ∧ now < entry.1.expiresAt) ∨
        (entry.2 = .expired ∧ entry.1.expiresAt ≤ now) := by
  cases step with
  | @dropped gone kept expired =>
      refine ⟨.uniform .expired gone, by simp, ?_, ?_⟩
      · exact Ledger.delivered_uniform (by decide) gone
      · intro entry mem
        rw [Ledger.mem_uniform] at mem
        exact Or.inr ⟨mem.2, Queued.not_live_iff.mp (expired entry.1 mem.1)⟩
  | @added gone kept expired queued =>
      refine ⟨.uniform .expired gone, by simp, ?_, ?_⟩
      · exact Ledger.delivered_uniform (by decide) gone
      · intro entry mem
        rw [Ledger.mem_uniform] at mem
        exact Or.inr ⟨mem.2, Queued.not_live_iff.mp (expired entry.1 mem.1)⟩
  | @taken gone kept expired queued alive =>
      refine ⟨Ledger.uniform .expired gone ++ [(queued, .delivered)], ?_, ?_, ?_⟩
      · simp [Ledger.entries, Ledger.uniform, Function.comp_def]
      · rw [Ledger.delivered_append, Ledger.delivered_uniform (by decide)]
        simp [Ledger.delivered]
      · intro entry mem
        rw [List.mem_append, Ledger.mem_uniform, List.mem_singleton] at mem
        rcases mem with ⟨mem, fate⟩ | rfl
        · exact Or.inr ⟨fate, Queued.not_live_iff.mp (expired entry.1 mem)⟩
        · exact Or.inl ⟨rfl, Queued.live_iff.mp alive⟩

/-- A timely queue stays timely: a message that is added expires last. -/
theorem timely {earlier later : Instant} {added : Option Queued} {taken : Option Message}
    (step : QueueStep now before added taken after) (le : earlier ≤ later)
    (latest : ∀ queued, added = some queued → queued.expiresAt = later)
    (timely : Timely earlier before) : Timely later after := by
  have laterTimely := timely.mono le
  cases step with
  | dropped _ => exact laterTimely.of_append_right
  | added _ queued =>
      rcases queued with ⟨message, expiresAt⟩
      have expiresLast : expiresAt = later := latest _ rfl
      subst expiresLast
      exact laterTimely.of_append_right.append_latest message
  | @taken gone kept _ queued _ =>
      rw [List.append_cons] at laterTimely
      exact laterTimely.of_append_right

/-- What is left in a queue to which nothing was added was there before. -/
theorem sublist {taken : Option Message} (step : QueueStep now before none taken after) :
    after.Sublist before := by
  generalize nothing : (none : Option Queued) = added at step
  cases step with
  | dropped _ => exact List.sublist_append_right _ _
  | added _ queued => cases nothing
  | taken _ _ => exact (List.sublist_cons_self _ _).trans (List.sublist_append_right _ _)

/-- As long as nothing has expired, what is taken from a queue stood in front, and nothing else is
lost. -/
theorem conserved_of_alive {added : Option Queued} {taken : Option Message}
    (step : QueueStep now before added taken after)
    (alive : ∀ queued ∈ before, queued.live now = true) :
    before.map Queued.message ++ (added.map Queued.message).toList =
      taken.toList ++ after.map Queued.message := by
  have nil_of : ∀ {gone kept : List Queued}, (∀ queued ∈ gone ++ kept, queued.live now = true) →
      (∀ queued ∈ gone, queued.live now = false) → gone = [] := by
    intro gone kept alive expired
    rw [List.eq_nil_iff_forall_not_mem]
    intro queued mem
    exact absurd (alive queued (List.mem_append_left _ mem)) (by simp [expired queued mem])
  cases step with
  | dropped expired =>
      cases nil_of alive expired
      simp
  | added expired queued =>
      cases nil_of alive expired
      simp
  | taken expired _ =>
      cases nil_of alive expired
      simp

theorem split_of_alive {taken : Option Message} (step : QueueStep now before none taken after)
    (alive : ∀ queued ∈ before, queued.live now = true) :
    before.map Queued.message = taken.toList ++ after.map Queued.message := by
  have conserved := step.conserved_of_alive alive
  rw [Option.map_none, Option.toList_none, List.append_nil] at conserved
  exact conserved

end QueueStep

/-! ## The books of a channel -/

/-- What is known of a channel from the moment `begun` on: which messages it accepted, which of them
the reader received, what became of those that left the queue, and how long they live. -/
structure Books (begun : Instant) (expiry : Duration) (now : Instant)
    (accepted received : List Message) (ledger : Ledger) (queue : List Queued) : Prop where
  accepted : accepted = (ledger.entries ++ queue).map Queued.message
  received : received = ledger.delivered
  fates : ∀ entry ∈ ledger,
    entry.2 = .delivered ∨ entry.2 = .expired ∧ entry.1.expiresAt ≤ now
  lives : ∀ queued ∈ ledger.entries ++ queue, begun + expiry ≤ queued.expiresAt

namespace Books

variable {begun now later : Instant} {expiry : Duration} {accepted received : List Message}
  {ledger : Ledger} {queue after : List Queued}

theorem wait (books : Books begun expiry now accepted received ledger queue) (le : now ≤ later) :
    Books begun expiry later accepted received ledger queue := by
  refine ⟨books.accepted, books.received, ?_, books.lives⟩
  intro entry mem
  rcases books.fates entry mem with delivered | ⟨expired, past⟩
  · exact Or.inl delivered
  · exact Or.inr ⟨expired, Nat.le_trans past le⟩

theorem step (books : Books begun expiry now accepted received ledger queue) {added : Option Queued}
    {taken : Option Message} (step : QueueStep now queue added taken after)
    (lives : ∀ queued, added = some queued → begun + expiry ≤ queued.expiresAt) :
    ∃ ledger, Books begun expiry now (accepted ++ (added.map Queued.message).toList)
      (received ++ taken.toList) ledger after := by
  rcases step.settle with ⟨more, conserved, delivered, fates⟩
  refine ⟨ledger ++ more, ?_, ?_, ?_, ?_⟩
  · have message : (added.map Queued.message).toList = added.toList.map Queued.message := by
      cases added <;> rfl
    rw [books.accepted, message, ← List.map_append, List.append_assoc, conserved,
      Ledger.entries_append, List.append_assoc]
  · rw [books.received, Ledger.delivered_append, delivered]
  · intro entry mem
    rcases List.mem_append.mp mem with old | new
    · exact books.fates entry old
    · rcases fates entry new with ⟨fate, -⟩ | expired
      · exact Or.inl fate
      · exact Or.inr expired
  · intro queued mem
    rw [Ledger.entries_append, List.append_assoc, ← conserved, ← List.append_assoc] at mem
    rcases List.mem_append.mp mem with old | new
    · exact books.lives queued old
    · exact lives queued (Option.mem_toList.mp new)

end Books

/-! ## Looking for live messages -/

namespace Store

theorem trim_split (now : Instant) (queue : List Queued) :
    ∃ gone, queue = gone ++ trim now queue ∧ ∀ queued ∈ gone, queued.live now = false := by
  refine ⟨queue.takeWhile fun queued => !queued.live now, ?_, ?_⟩
  · exact (List.takeWhile_append_dropWhile).symm
  · intro queued mem
    have dropped := List.mem_takeWhile_imp mem
    simpa using dropped

theorem live_head_trim {now : Instant} {queue rest : List Queued} {queued : Queued}
    (trimmed : trim now queue = queued :: rest) : queued.live now = true := by
  have head := List.head?_dropWhile_not (fun queued : Queued => !queued.live now) queue
  rw [trim] at trimmed
  rw [trimmed] at head
  simpa using head

/-- A trimmed queue has the live messages of the queue at least. -/
theorem filter_live_trim (now : Instant) (queue : List Queued) :
    (trim now queue).filter (Queued.live now) = queue.filter (Queued.live now) := by
  rcases trim_split now queue with ⟨gone, split, expired⟩
  conv => rhs; rw [split]
  simp [filter_live_of_expired expired]

/-- A timely queue is trimmed to its live messages. -/
theorem trim_eq_filter {latest : Instant} {queue : List Queued} (now : Instant)
    (timely : Timely latest queue) : trim now queue = queue.filter (Queued.live now) := by
  rw [← filter_live_trim]
  rcases trim_split now queue with ⟨gone, split, -⟩
  have trimmedTimely : Timely latest (trim now queue) := by
    rw [split] at timely
    exact timely.of_append_right
  cases trimmed : trim now queue with
  | nil => rfl
  | cons queued rest =>
      have alive := live_head_trim trimmed
      rw [trimmed] at trimmedTimely
      rw [List.filter_cons_of_pos alive, trimmedTimely.filter_live_tail alive]

theorem firstLive_eq (now : Instant) (queue : List Queued) :
    firstLive now queue =
      match trim now queue with
      | [] => (none, [])
      | queued :: rest => (some queued.message, rest) := by
  induction queue with
  | nil => rfl
  | cons queued rest ih =>
      by_cases alive : queued.live now = true
      · simp [firstLive, trim, alive]
      · simpa [firstLive, trim, alive] using ih

end Store

end Courier
