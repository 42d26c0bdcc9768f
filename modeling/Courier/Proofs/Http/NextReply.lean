import Courier.Http.Interface
import Courier.Proofs.Site
import Courier.Proofs.Store.Waiting

/-!
# Reading the next reply

What moving a reading on comes to. A message is brought if there is a live one and the reading looks
for it; a reading gives up at its deadline only, and only where it has looked in vain and heard of
no announcement since. Whatever it comes to, the queue of its channel loses at most the message that
is brought, besides expired ones, and all other queues at most lose expired messages.
-/

namespace Courier.Http

/-- The message that was read. -/
def Read.message? : Read → Option Message
  | .message brought => some brought
  | .failed _ | .reading _ => none

namespace Reading

/-- A reading that waits, if at all, for one channel. -/
def Listens (channel : String) : Reading → Prop
  | .asking _ => True
  | .waiting _ receiver => receiver.channels = [channel]

/-- A reading that waits and has heard of all announcements. -/
def HeardAll (store : Store) : Reading → Prop
  | .asking _ => False
  | .waiting _ receiver => receiver.heard = store.announcements

/-- What moving a reading on comes to, in the store that it finds. -/
inductive Comes (store : Store) (now : Instant) (channel : String) (reading : Reading) :
    Read → Prop
  | message (message : Message) : Comes store now channel reading (.message message)
  | gaveUp (late : reading.deadline ≤ now)
      (vain : reading.HeardAll store ∨ store.live now channel = []) :
      Comes store now channel reading (.failed (.responseTimeout channel))
  | askAgain {receiver : Waiting} (waited : reading = .waiting reading.deadline receiver)
      (vain : store.live now channel = []) :
      Comes store now channel reading (.reading (.asking reading.deadline))
  | waits {receiver : Waiting} (early : now < reading.deadline)
      (listens : receiver.channels = [channel]) (heard : receiver.heard = store.announcements)
      (vain : reading.HeardAll store ∨ store.live now channel = []) :
      Comes store now channel reading (.reading (.waiting reading.deadline receiver))

/-- What moving a reading on does to the backend. -/
structure Steps (backend : Backend) (now : Instant) (channel : String) (reading : Reading)
    (read : Read) (after : Backend) : Prop where
  comes : Comes backend.store now channel reading read
  queue : QueueStep now (backend.store.queue channel) none read.message?
    (after.store.queue channel)
  others : ∀ other, other ≠ channel →
    QueueStep now (backend.store.queue other) none none (after.store.queue other)
  announcements : after.store.announcements = backend.store.announcements
  settings : after.store.settings = backend.store.settings
  backend : after = { backend with receives := after.receives, store := after.store }

variable {backend : Backend} {now : Instant} {channel : String}

theorem message?_accept {receipt : Receipt} (concerns : receipt.Concerns [channel])
    (deadline : Instant) :
    (accept channel now deadline receipt).message? = receipt.from? channel := by
  cases receipt with
  | received source message => exact (if_pos (List.mem_singleton.mp concerns)).symm
  | nothing => rfl
  | waiting receiver =>
      rw [accept]
      split
      · rfl
      · rfl

theorem from?_of_ne {receipt : Receipt} (concerns : receipt.Concerns [channel]) {other : String}
    (differ : other ≠ channel) : receipt.from? other = none := by
  cases receipt with
  | received source message =>
      exact if_neg fun same => differ (same.symm.trans (List.mem_singleton.mp concerns))
  | nothing => rfl
  | waiting receiver => rfl

theorem comes_accept {store : Store} {reading : Reading} {receipt : Receipt}
    (concerns : receipt.Concerns [channel])
    (nothing : receipt = .nothing → (∃ receiver, reading = .waiting reading.deadline receiver) ∧
      store.live now channel = [])
    (waits : ∀ receiver, receipt = .waiting receiver → receiver.heard = store.announcements ∧
      (reading.HeardAll store ∨ store.live now channel = [])) :
    Comes store now channel reading (accept channel now reading.deadline receipt) := by
  cases receipt with
  | received source message => exact Comes.message message
  | nothing =>
      rcases nothing rfl with ⟨⟨receiver, waited⟩, vain⟩
      exact Comes.askAgain waited vain
  | waiting receiver =>
      rcases waits receiver rfl with ⟨heard, vain⟩
      rw [accept]
      split
      case isTrue late => exact Comes.gaveUp late vain
      case isFalse early => exact Comes.waits (Nat.lt_of_not_le early) concerns heard vain

theorem live_eq_nil {store : Store}
    (silent : ∀ listed ∈ [channel], (store.queue listed).filter (Queued.live now) = []) :
    store.live now channel = [] :=
  List.map_eq_nil_iff.mpr (silent channel List.mem_cons_self)

theorem steps_asking
    (reached : backend.receive now [channel] true =
      (.ok (backend.store.receive now [channel] true).1,
        { backend with
          receives := backend.receives + 1
          store := (backend.store.receive now [channel] true).2 })) (deadline : Instant) :
    Steps backend now channel (.asking deadline)
      (step backend now channel (.asking deadline)).1
      (step backend now channel (.asking deadline)).2 := by
  have concerns := Store.concerns_receive backend.store now [channel] true
  rw [step, reached]
  refine ⟨comes_accept concerns ?_ ?_, ?_, ?_, ?_, ?_, rfl⟩
  · intro nothing
    exact absurd nothing Store.receive_ne_nothing
  · intro receiver waits
    rcases Store.receive_waiting waits with ⟨-, heard, silent⟩
    exact ⟨heard, Or.inr (live_eq_nil silent)⟩
  · rw [message?_accept concerns]
    exact Store.queueStep_receive backend.store now channel [channel] true
  · intro other differ
    have queueStep := Store.queueStep_receive backend.store now other [channel] true
    rw [from?_of_ne concerns differ] at queueStep
    exact queueStep
  · exact Store.announcements_receive backend.store now [channel] true
  · exact Store.settings_receive backend.store now [channel] true

theorem steps_waiting {receiver : Waiting} (listens : receiver.channels = [channel])
    (deadline : Instant) :
    Steps backend now channel (.waiting deadline receiver)
      (step backend now channel (.waiting deadline receiver)).1
      (step backend now channel (.waiting deadline receiver)).2 := by
  have concerns := Store.concerns_resume backend.store now receiver
  rw [listens] at concerns
  rw [step, Backend.resume]
  refine ⟨comes_accept concerns ?_ ?_, ?_, ?_, ?_, ?_, rfl⟩
  · intro nothing
    have silent := Store.resume_nothing nothing
    rw [listens] at silent
    exact ⟨⟨receiver, rfl⟩, live_eq_nil silent⟩
  · intro left waits
    rcases Store.resume_waiting waits with ⟨-, heard, again⟩
    refine ⟨heard, again.imp_right ?_⟩
    intro silent
    rw [listens] at silent
    exact live_eq_nil silent
  · rw [message?_accept concerns]
    exact Store.queueStep_resume backend.store now channel receiver
  · intro other differ
    have queueStep := Store.queueStep_resume backend.store now other receiver
    rw [from?_of_ne concerns differ] at queueStep
    exact queueStep
  · exact Store.announcements_resume backend.store now receiver
  · exact Store.settings_resume backend.store now receiver

theorem steps_step (reliable : backend.failingReceives = []) {reading : Reading}
    (listens : reading.Listens channel) :
    Steps backend now channel reading (reading.step backend now channel).1
      (reading.step backend now channel).2 := by
  cases reading with
  | asking deadline => exact steps_asking (Backend.receive_of_reliable reliable now _ _) deadline
  | waiting deadline receiver => exact steps_waiting listens deadline

/-- Where calls on the backend may fail, a reading fails with them and takes nothing. -/
theorem steps_or_fails (backend : Backend) (now : Instant) {reading : Reading}
    (listens : reading.Listens channel) :
    Steps backend now channel reading (reading.step backend now channel).1
        (reading.step backend now channel).2 ∨
      ∃ error, (reading.step backend now channel).1 = .failed error ∧
        (reading.step backend now channel).2.store = backend.store := by
  cases reading with
  | asking deadline =>
      rcases backend.receive_reaches_or_fails now [channel] true with reached | ⟨error, failed⟩
      · exact Or.inl (steps_asking reached deadline)
      · right
        rw [step, failed]
        exact ⟨_, rfl, rfl⟩
  | waiting deadline receiver => exact Or.inl (steps_waiting listens deadline)

/-! ## Readings that look -/

theorem Comes.listens {store : Store} {reading next : Reading}
    (comes : Comes store now channel reading (.reading next)) : next.Listens channel := by
  cases comes with
  | askAgain => trivial
  | waits _ listens _ _ => exact listens

/-- A reading that looks where there is a live message brings one. -/
theorem Comes.message_of_live {store : Store} {reading : Reading} {read : Read}
    (comes : Comes store now channel reading read) (fresh : ¬reading.HeardAll store)
    (some : store.live now channel ≠ []) : ∃ message, read = .message message := by
  cases comes with
  | message message => exact ⟨message, rfl⟩
  | gaveUp _ vain => exact absurd (vain.resolve_left fresh) some
  | askAgain _ vain => exact absurd vain some
  | waits _ _ _ vain => exact absurd (vain.resolve_left fresh) some

end Reading

end Courier.Http
