import Courier.Proofs.Data.Dict
import Courier.Proofs.Socket.Multiplex
import Courier.Proofs.Store.Waiting

/-!
# A reader misses no registration

A socket is entered into the directory and announced after that, while a reader takes note of how
many announcements there were, looks up the channels that are registered and waits for messages on
them. In between sockets may be entered, announced and taken out, frames and messages may come and
go, and time passes.

A reader takes note before it looks. So as long as it has heard of every announcement, each socket
that was announced is among the channels that it has looked up: one that was entered later is still
to be announced. An announcement that the reader has not heard of cuts its wait short.
-/

namespace Courier.Socket

namespace Reader

/-- A reader waits for messages on these channels or is about to, and has heard of so many
registrations. -/
inductive Attends : ReaderState → Nat → List String → Prop
  | informed {heard : Nat} {channels : List String} :
      Attends (.informed heard channels) heard channels
  | idle {heard : Nat} {wakeAt : Instant} : Attends (.idle heard wakeAt) heard []
  | receiving {heard : Nat} {waiting : Waiting} :
      Attends (.receiving heard waiting) heard waiting.channels

theorem Attends.unique {state : ReaderState} {heard other : Nat} {channels others : List String}
    (attends : Attends state heard channels) (again : Attends state other others) :
    heard = other ∧ channels = others := by
  cases attends with
  | informed | idle | receiving =>
      cases again
      exact ⟨rfl, rfl⟩

/-- A reader waits, for messages on these channels or, if there are none, for some time. -/
def Waits (channels : List String) : ReaderState → Prop
  | .idle _ _ => channels = []
  | .receiving _ waiting => channels = waiting.channels
  | _ => False

theorem exists_attends_of_waits {channels : List String} {state : ReaderState}
    (waits : Waits channels state) : ∃ heard, Attends state heard channels := by
  cases state with
  | idle heard wakeAt =>
      cases waits
      exact ⟨heard, .idle⟩
  | receiving heard waiting =>
      cases waits
      exact ⟨heard, .receiving⟩
  | ready | listening | informed | pausing | stopped => exact waits.elim

/-! ## What a reader does next -/

/-- How a reader may go on, whatever is decided about what is left open. -/
inductive Turns (directory : Directory) : ReaderState → ReaderState → Prop
  | still {state : ReaderState} : Turns directory state state
  | begins {state : ReaderState} : Turns directory state .ready
  | pauses {state : ReaderState} {wakeAt : Instant} : Turns directory state (.pausing wakeAt)
  | stops {state : ReaderState} : Turns directory state .stopped
  | listens : Turns directory .ready (.listening directory.registrations)
  | looksUp {heard : Nat} :
      Turns directory (.listening heard) (.informed heard directory.channels)
  | attends {state next : ReaderState} {heard : Nat} {channels others : List String}
      (before : Attends state heard channels) (after : Attends next heard others)
      (covers : channels ⊆ others) : Turns directory state next

theorem turns_behind {directory : Directory} {state : ReaderState} {heard : Nat}
    {channels : List String} (attends : Attends state heard channels) {receipt : Receipt}
    (same : ∀ waiting, receipt = .waiting waiting → waiting.channels = channels) :
    Turns directory state (behind heard receipt) := by
  cases receipt with
  | received | nothing => exact .begins
  | waiting waiting =>
      cases same waiting rfl
      exact .attends attends .receiving (List.Subset.refl _)

theorem turns_look (reader : Reader) (hub : Hub) (now : Instant) :
    Turns hub.directory reader.state (reader.look hub now).2.1 := by
  rcases reader with ⟨settings, state⟩
  cases state with
  | ready => exact .listens
  | listening heard => exact .looksUp
  | informed heard channels =>
      simp only [look]
      split
      case isTrue none =>
          cases List.isEmpty_iff.mp none
          exact .attends .informed .idle (List.Subset.refl _)
      case isFalse =>
          rw [Hub.receive]
          rcases Backend.receive_reaches_or_fails hub.site.backend now channels true with
            reaches | ⟨error, fails⟩
          · rw [reaches]
            exact turns_behind .informed fun waiting waits => (Store.receive_waiting waits).1
          · rw [fails]
            exact .pauses
  | idle heard wakeAt | pausing wakeAt =>
      simp only [look]
      split
      · exact .begins
      · exact .still
  | receiving heard waiting =>
      exact turns_behind .receiving fun left waits => (Store.resume_waiting waits).1
  | stopped => exact .still

theorem turns_reordered (directory : Directory) (order : List String) (state : ReaderState) :
    Turns directory state (Multiplex.reordered order state) := by
  cases state with
  | ready | listening | idle | pausing | stopped => exact .still
  | informed heard channels =>
      rw [Multiplex.reordered]
      split
      · rename_i perm
        exact .attends .informed .informed (List.isPerm_iff.mp perm).symm.subset
      · exact .still
  | receiving heard waiting =>
      rw [Multiplex.reordered]
      split
      · rename_i perm
        exact .attends .receiving .receiving (List.isPerm_iff.mp perm).symm.subset
      · exact .still

/-! ## What a reader has heard of -/

/-- A reader that has heard of all announcements attends to every socket that was announced. -/
structure Attentive (announced : List Nat) (directory : Directory) (state : ReaderState) :
    Prop where
  opened : ∀ number ∈ announced, number < directory.outboxes.length
  listening : ∀ heard, state = .listening heard → heard ≤ directory.registrations
  heard : ∀ heard channels, Attends state heard channels → heard ≤ directory.registrations
  covers : ∀ channels, Attends state directory.registrations channels →
    ∀ name number, directory.owners.find? name = some number → number ∈ announced →
      name ∈ channels

namespace Attentive

variable {announced : List Nat} {directory : Directory} {state next : ReaderState}

theorem turn (attentive : Attentive announced directory state)
    (turns : Turns directory state next) : Attentive announced directory next := by
  cases turns with
  | still => exact attentive
  | begins | pauses | stops => exact ⟨attentive.opened, nofun, nofun, nofun⟩
  | listens =>
      refine ⟨attentive.opened, ?_, nofun, nofun⟩
      rintro heard ⟨⟩
      exact Nat.le_refl _
  | looksUp =>
      refine ⟨attentive.opened, nofun, ?_, ?_⟩
      · rintro heard channels ⟨⟩
        exact attentive.listening _ rfl
      · rintro channels ⟨⟩ name number registered _
        exact Assoc.mem_keys.mpr ⟨number, registered⟩
  | attends before after covers =>
      refine ⟨attentive.opened, ?_, ?_, ?_⟩
      · rintro heard rfl
        cases after
      · intro heard channels again
        cases (after.unique again).1
        exact attentive.heard _ _ before
      · intro channels again name number registered told
        rcases after.unique again with ⟨rfl, rfl⟩
        exact covers (attentive.covers _ before name number registered told)

/-- As long as the directory gains none but new queues, nothing that was announced is missed. -/
theorem within (attentive : Attentive announced directory state) {after : Directory}
    (registrations : after.registrations = directory.registrations)
    (opened : directory.outboxes.length ≤ after.outboxes.length)
    (owners : ∀ name number, after.owners.find? name = some number →
      number < directory.outboxes.length → directory.owners.find? name = some number) :
    Attentive announced after state := by
  refine ⟨?_, ?_, ?_, ?_⟩
  · intro number told
    exact Nat.lt_of_lt_of_le (attentive.opened number told) opened
  · rw [registrations]
    exact attentive.listening
  · rw [registrations]
    exact attentive.heard
  · rw [registrations]
    intro channels attends name number registered told
    exact attentive.covers channels attends name number
      (owners name number registered (attentive.opened number told)) told

theorem enter (attentive : Attentive announced directory state) (name : String) :
    Attentive announced (directory.enter name) state := by
  refine attentive.within rfl ?_ ?_
  · simp [Directory.enter]
  · intro other number registered old
    rcases Assoc.find?_insert_cases registered with ⟨-, rfl⟩ | ⟨-, earlier⟩
    · exact absurd old (Nat.lt_irrefl _)
    · exact earlier

theorem unregister (attentive : Attentive announced directory state) (name : String) :
    Attentive announced (directory.unregister name).2 state :=
  attentive.within rfl (Nat.le_refl _) fun _ _ registered _ =>
    (Assoc.find?_of_find?_erase registered).2

/-- An announcement leaves no reader that has heard of all announcements. -/
theorem announce (attentive : Attentive announced directory state) {others : List Nat}
    (opened : ∀ number ∈ others, number < directory.outboxes.length) :
    Attentive others directory.announce state := by
  refine ⟨opened, ?_, ?_, ?_⟩
  · intro heard listening
    exact Nat.le_succ_of_le (attentive.listening heard listening)
  · intro heard channels attends
    exact Nat.le_succ_of_le (attentive.heard heard channels attends)
  · intro channels attends
    exact absurd (attentive.heard _ channels attends) (Nat.not_succ_le_self _)

/-- Frames come and go without a change of what is registered. -/
theorem withOutboxes (attentive : Attentive announced directory state) (number : Nat)
    (outbox : Outbox) :
    Attentive announced { directory with outboxes := directory.outboxes.set number outbox } state :=
  attentive.within rfl (by simp) fun _ _ registered _ => registered

theorem dispatch (attentive : Attentive announced directory state) (channel : String)
    (frame : Frame) : Attentive announced (directory.dispatch channel frame).2 state := by
  rcases directory.dispatch_spec channel frame with
    ⟨number, outbox, -, -, -, dispatched⟩ | ⟨error, refused⟩
  · rw [dispatched]
    exact attentive.withOutboxes ..
  · rw [refused]
    exact attentive

theorem receive (attentive : Attentive announced directory state) (number : Nat) :
    Attentive announced (directory.receive number).2 state := by
  rcases directory.receive_spec number with
    ⟨frame, rest, attached, -, received⟩ | ⟨retrieval, -, received⟩
  · rw [received]
    exact attentive.withOutboxes ..
  · rw [received]
    exact attentive

end Attentive

/-! ## Readers that are behind -/

/-- Whatever a reader waits for, it begins a new round: it is cut short by a registration of which
it has not heard, and where the wait is over at the same time, what is found ends it too. In the
new round the reader takes note of the registrations and looks up the channels again. -/
structure Roused (channels : List String) (reader : Reader) (hub : Hub) : Prop where
  outdated : reader.outdated hub = true
  begins : ∀ now, (reader.step hub now false).1.state = .ready
  looksAgain : ∀ now first later second last,
    (((reader.step hub now false).1.step first later false).1.step second last false).1.state =
      .informed first.directory.registrations second.directory.channels
  orEnds : ∀ now, (reader.proceed hub now).1 = .ready ∨ Waits channels (reader.proceed hub now).1

variable {reader : Reader} {hub : Hub} {channels : List String}

theorem Attends.outdated {heard : Nat} (attends : Attends reader.state heard channels)
    (behind : heard ≠ hub.directory.registrations) : reader.outdated hub = true := by
  rcases reader with ⟨settings, state⟩
  cases attends with
  | informed | idle | receiving => exact bne_iff_ne.mpr behind

theorem Attends.interruptible {heard : Nat} (attends : Attends reader.state heard channels) :
    reader.interruptible = true := by
  rcases reader with ⟨settings, state⟩
  cases attends with
  | informed | idle | receiving => rfl

theorem ready_or_waits_proceed (waits : Waits channels reader.state) (now : Instant) :
    (reader.proceed hub now).1 = .ready ∨ Waits channels (reader.proceed hub now).1 := by
  rcases reader with ⟨settings, state⟩
  cases state with
  | idle heard wakeAt =>
      simp only [proceed]
      split
      · exact Or.inl rfl
      · exact Or.inr waits
  | receiving heard waiting =>
      cases waits
      simp only [proceed]
      rw [accept_eq]
      cases found : (hub.resume now waiting).1 with
      | received | nothing => exact Or.inl rfl
      | waiting left => exact Or.inr (Store.resume_waiting found).1.symm
  | ready | listening | informed | pausing | stopped => exact waits.elim

theorem roused_of_behind (waits : Waits channels reader.state) {heard : Nat}
    (attends : Attends reader.state heard channels)
    (behind : heard ≠ hub.directory.registrations) : Roused channels reader hub := by
  have outdated := attends.outdated behind
  have step : ∀ now, reader.step hub now false = ({ reader with state := .ready }, hub) := by
    intro now
    rw [Reader.step, Bool.false_and, if_neg Bool.false_ne_true, attends.interruptible,
      outdated]
    rfl
  refine ⟨outdated, ?_, ?_, ready_or_waits_proceed waits⟩
  · intro now
    rw [step]
  · intro now first later second last
    rw [step]
    rfl

end Reader

/-! ## Moves -/

namespace Multiplex

variable {announced : List Nat} {multiplex : Multiplex}

theorem attentive_dispatchNext
    (attentive : Reader.Attentive announced multiplex.directory multiplex.reader.state) :
    Reader.Attentive announced multiplex.dispatchNext.directory
      multiplex.dispatchNext.reader.state := by
  rw [dispatchNext]
  split
  · exact attentive
  · exact attentive
  · rename_i channel frame rest pending
    have dispatched := attentive.dispatch channel frame
    generalize multiplex.directory.dispatch channel frame = result at dispatched ⊢
    rcases result with ⟨error | done, directory⟩
    · exact dispatched
    · exact dispatched

theorem attentive_retrieve
    (attentive : Reader.Attentive announced multiplex.directory multiplex.reader.state)
    (number : Nat) :
    Reader.Attentive announced (multiplex.move (.retrieve number)).directory
      (multiplex.move (.retrieve number)).reader.state := by
  have received := attentive.receive number
  rw [move]
  generalize multiplex.directory.receive number = taken at received ⊢
  rcases taken with ⟨retrieval, directory⟩
  cases retrieval with
  | frame | empty | closed => exact received

theorem attentive_proceed
    (attentive : Reader.Attentive announced multiplex.directory multiplex.reader.state) :
    Reader.Attentive announced (multiplex.move .proceed).directory
      (multiplex.move .proceed).reader.state := by
  rw [move]
  split
  case isFalse => exact attentive
  case isTrue =>
      have looks := Reader.looks_look multiplex.reader multiplex.hub multiplex.now
      have looked := attentive.turn
        (Reader.turns_look multiplex.reader multiplex.hub multiplex.now)
      rw [directory, ← looks.directory] at looked
      exact looked

theorem attentive_move
    (attentive : Reader.Attentive announced multiplex.directory multiplex.reader.state)
    (move : Move) :
    Reader.Attentive announced (multiplex.move move).directory
      (multiplex.move move).reader.state := by
  cases move with
  | wait duration | announce => exact attentive
  | push channel message =>
      rw [Multiplex.move]
      split
      · exact attentive
      · exact attentive
  | enter name => exact attentive.enter name
  | tell => exact attentive.announce attentive.opened
  | unregister name => exact attentive.unregister name
  | detach number => exact attentive.withOutboxes number _
  | retrieve number => exact attentive_retrieve attentive number
  | stop =>
      rw [Multiplex.move]
      split
      · exact attentive.turn .stops
      · exact attentive
  | restart =>
      rw [Multiplex.move]
      split
      · exact attentive.turn .begins
      · exact attentive
  | shuffle order => exact attentive.turn (Reader.turns_reordered _ order _)
  | proceed => exact attentive_proceed attentive
  | dispatch => exact attentive_dispatchNext attentive

end Multiplex

/-! ## Announcements of sockets -/

/-- A reader among many sockets, and the numbers of the queues whose opening was announced. -/
structure Watch where
  multiplex : Multiplex
  announced : List Nat := []

namespace Watch

/-- What may happen next. A socket that was entered is announced by the number of its queue. -/
inductive Move where
  | announce (number : Nat)
  | other (move : Multiplex.Move)

/-- Makes a move. -/
def move (watch : Watch) : Move → Watch
  | .announce number =>
      if number < watch.multiplex.directory.outboxes.length then
        ⟨watch.multiplex.move .tell, number :: watch.announced⟩
      else watch
  | .other move => { watch with multiplex := watch.multiplex.move move }

/-- Makes moves one after another. -/
def run (watch : Watch) (moves : List Move) : Watch := moves.foldl move watch

/-- A reader that starts on a backend without messages, with no socket yet. -/
def start (settings : SocketSettings) (storeSettings : StoreSettings) (label : String)
    (failingReceives : List Nat) (depth : Nat) (begun : Instant) : Watch where
  multiplex := .start settings storeSettings label failingReceives depth begun

/-- The reader of a watch attends to all sockets that were announced, unless it is behind. -/
def Attentive (watch : Watch) : Prop :=
  Reader.Attentive watch.announced watch.multiplex.directory watch.multiplex.reader.state

theorem Attentive.move {watch : Watch} (attentive : watch.Attentive) (move : Move) :
    (watch.move move).Attentive := by
  cases move with
  | announce number =>
      rw [Watch.move]
      split
      case isTrue opened =>
          apply Reader.Attentive.announce attentive
          intro other told
          rcases List.mem_cons.mp told with rfl | earlier
          · exact opened
          · exact attentive.opened other earlier
      case isFalse => exact attentive
  | other move => exact Multiplex.attentive_move attentive move

theorem Attentive.run {watch : Watch} (attentive : watch.Attentive) (moves : List Move) :
    (watch.run moves).Attentive := by
  induction moves generalizing watch with
  | nil => exact attentive
  | cons move rest ih => exact ih (attentive.move move)

theorem attentive_start (settings : SocketSettings) (storeSettings : StoreSettings)
    (label : String) (failingReceives : List Nat) (depth : Nat) (begun : Instant) :
    (start settings storeSettings label failingReceives depth begun).Attentive :=
  ⟨nofun, nofun, nofun, nofun⟩

/-! ## Main result -/

/-- A socket that was entered and announced is among the channels that the reader waits on, or the
wait is cut short and the reader looks up the channels again. -/
theorem no_registration_is_slept_through (settings : SocketSettings)
    (storeSettings : StoreSettings) (label : String) (failingReceives : List Nat) (depth : Nat)
    (begun : Instant) (moves : List Move) (watch : Watch)
    (reached : watch = (start settings storeSettings label failingReceives depth begun).run moves)
    (channels : List String) (waits : Reader.Waits channels watch.multiplex.reader.state)
    (name : String) (number : Nat)
    (entered : watch.multiplex.directory.owners.find? name = some number)
    (told : number ∈ watch.announced) (missing : name ∉ channels) :
    Reader.Roused channels watch.multiplex.reader watch.multiplex.hub := by
  have attentive : watch.Attentive := by
    rw [reached]
    exact (attentive_start ..).run moves
  rcases Reader.exists_attends_of_waits waits with ⟨heard, attends⟩
  refine Reader.roused_of_behind waits attends ?_
  rintro rfl
  exact missing (attentive.covers channels attends name number entered told)

/-- A second socket is entered after the reader has looked, and announced while it waits. -/
theorem no_registration_is_slept_through_late :
    ∃ (watch : Watch) (channels : List String),
      watch = (start {} {} "" [] 1 0).run
        [.other (.enter "a"), .announce 0, .other .proceed, .other .proceed, .other (.enter "b"),
          .other .proceed, .announce 1] ∧
      Reader.Waits channels watch.multiplex.reader.state ∧
      watch.multiplex.directory.owners.find? "b" = some 1 ∧ 1 ∈ watch.announced ∧
      "b" ∉ channels ∧ Reader.Roused channels watch.multiplex.reader watch.multiplex.hub := by
  refine ⟨_, ["a"], rfl, rfl, rfl, ?_, ?_, ?_⟩
  · exact List.mem_cons_self
  · decide
  · exact no_registration_is_slept_through {} {} "" [] 1 0 _ _ rfl ["a"] rfl "b" 1 rfl
      List.mem_cons_self (by decide)

end Watch

end Courier.Socket
