import Courier.Proofs.Socket.Round

/-!
# One reader for many sockets

A reader takes messages from the reply channels of all sockets and delivers them to the queues of
the sockets, while messages are sent, sockets come and go and take their frames, and time passes.
Sending and announcing a message are two steps, so are entering and announcing a socket, and a
message is delivered frame by frame. Whether a reader that could be cut short by a registration is
cut short or goes on, and in which order it looks at its channels, is left open.

The state also holds what the channels have accepted, what the reader has handed over for delivery,
under which name each queue was opened, and what was put into the queues and taken from them. Each
channel keeps its books: what it accepted was handed over, has expired or waits. And what is in a
queue, or under way to it, are frames of the messages that were handed over on the channel of this
queue, in order; for the directory never leads from a channel to a queue of another name.
-/

namespace Courier.Socket

/-! ## Entries of lists -/

section Under

variable {κ α : Type} [DecidableEq κ]

/-- The entries under a key, in order. -/
def under (key : κ) (entries : List (κ × α)) : List α :=
  (entries.filter fun entry => entry.1 = key).map Prod.snd

@[simp]
theorem under_append (key : κ) (first second : List (κ × α)) :
    under key (first ++ second) = under key first ++ under key second := by
  simp [under]

@[simp]
theorem under_self (key : κ) (value : α) : under key [(key, value)] = [value] := by
  simp [under]

theorem under_of_ne {key other : κ} (differ : other ≠ key) (value : α) :
    under key [(other, value)] = [] := by
  simp [under, differ]

theorem under_eq_nil {key : κ} {entries : List (κ × α)}
    (elsewhere : ∀ entry ∈ entries, entry.1 ≠ key) : under key entries = [] := by
  rw [under, List.map_eq_nil_iff, List.filter_eq_nil_iff]
  intro entry mem
  simpa using elsewhere entry mem

end Under

theorem getElem?_snoc_cases {α : Type} {entries : List α} {last found : α} {number : Nat}
    (there : (entries ++ [last])[number]? = some found) :
    entries[number]? = some found ∨ number = entries.length ∧ found = last := by
  by_cases old : number < entries.length
  · rw [List.getElem?_append_left old] at there
    exact Or.inl there
  · have bound := (List.getElem?_eq_some_iff.mp there).1
    rw [List.length_append, List.length_singleton] at bound
    have isLast : number = entries.length := by omega
    subst isLast
    rw [List.getElem?_concat_length] at there
    exact Or.inr ⟨rfl, (Option.some.inj there).symm⟩

/-! ## States and steps -/

/-- The frames to send for a message; there are none for a message that cannot be read. -/
def framesFor (message : Message) : List Frame :=
  match Send.framesOf message with
  | .ok frames => frames
  | .error _ => []

/-- A reader and many sockets: the time, the hub, the reader, and the frames that are still to be
delivered of a message; besides, what was accepted and handed over by channels, the name of each
queue, and what was put into queues and taken from them by their numbers. -/
structure Multiplex where
  now : Instant
  hub : Hub
  reader : Reader
  pending : Option (String × List Frame) := none
  names : List String := []
  accepted : List (String × Queued) := []
  handed : List (String × Message) := []
  queued : List (Nat × Frame) := []
  retrieved : List (Nat × Frame) := []

namespace Multiplex

/-- What may happen next. -/
inductive Move where
  | wait (duration : Duration)
  | push (channel : String) (message : Message)
  | announce
  | enter (name : String)
  | tell
  | unregister (name : String)
  | retrieve (number : Nat)
  | detach (number : Nat)
  | stop
  | restart
  | shuffle (order : List String)
  | proceed
  | dispatch

/-- The store that is shared. -/
def store (multiplex : Multiplex) : Store := multiplex.hub.site.backend.store

/-- The directory of live sockets. -/
def directory (multiplex : Multiplex) : Directory := multiplex.hub.directory

/-- The state with another store. -/
def withStore (multiplex : Multiplex) (store : Store) : Multiplex :=
  { multiplex with hub.site.backend.store := store }

/-- The state with another directory. -/
def withDirectory (multiplex : Multiplex) (directory : Directory) : Multiplex :=
  { multiplex with hub.directory := directory }

/-- The state with another state of the reader. -/
def withReader (multiplex : Multiplex) (state : ReaderState) : Multiplex :=
  { multiplex with reader.state := state }

/-- What is logged about a message that cannot be read. -/
def malformedReport? (message : Message) : Option LogEntry :=
  match Send.framesOf message with
  | .ok _ => none
  | .error error => some (.warning ("Dropping malformed outbound message: " ++ error.message))

/-- Hands a message over for delivery. -/
def hand (multiplex : Multiplex) (brought : Option (String × Message)) : Multiplex :=
  { multiplex with
    handed := multiplex.handed ++ brought.toList
    pending := brought.bind fun brought =>
      (Send.framesOf brought.2).toOption.map fun frames => (brought.1, frames)
    hub := multiplex.hub.report? (brought.bind fun brought => malformedReport? brought.2) }

/-- What is logged about a frame that was refused. -/
def refusalReport? : Error → Option LogEntry
  | .connectionGone _ => none
  | error => some (.warning ("Dropping outbound message: " ++ error.message))

/-- Delivers the next frame of a message. Behind a frame that is refused no more are delivered. -/
def dispatchNext (multiplex : Multiplex) : Multiplex :=
  match multiplex.pending with
  | none => multiplex
  | some (_, []) => { multiplex with pending := none }
  | some (channel, frame :: rest) =>
      match multiplex.directory.dispatch channel frame with
      | (.ok (), directory) =>
          { multiplex.withDirectory directory with
            pending := some (channel, rest)
            queued := multiplex.queued ++
              (multiplex.directory.owners.find? channel).toList.map fun number =>
                (number, frame) }
      | (.error error, directory) =>
          { multiplex with
            hub := { multiplex.hub with directory }.report? (refusalReport? error)
            pending := none }

/-- The state of a reader that looks at its channels in another order. -/
def reordered (order : List String) : ReaderState → ReaderState
  | .informed heard channels =>
      if order.isPerm channels then .informed heard order else .informed heard channels
  | .receiving heard waiting =>
      if order.isPerm waiting.channels then .receiving heard { waiting with channels := order }
      else .receiving heard waiting
  | state => state

/-- Makes a move. A reader makes no step of its own while a message is being delivered. -/
def move (multiplex : Multiplex) : Move → Multiplex
  | .wait duration => { multiplex with now := multiplex.now + duration }
  | .push channel message =>
      match multiplex.store.push multiplex.now channel message with
      | (.ok (), store) =>
          { multiplex.withStore store with
            accepted := multiplex.accepted ++
              [(channel, ⟨message, multiplex.now + multiplex.store.settings.messageExpiry⟩)] }
      | (.error _, store) => multiplex.withStore store
  | .announce => multiplex.withStore multiplex.store.announce
  | .enter name =>
      { multiplex.withDirectory (multiplex.directory.enter name) with
        names := multiplex.names ++ [name] }
  | .tell => multiplex.withDirectory multiplex.directory.announce
  | .unregister name => multiplex.withDirectory (multiplex.directory.unregister name).2
  | .retrieve number =>
      match multiplex.directory.receive number with
      | (.frame frame, directory) =>
          { multiplex.withDirectory directory with
            retrieved := multiplex.retrieved ++ [(number, frame)] }
      | (_, directory) => multiplex.withDirectory directory
  | .detach number => multiplex.withDirectory (multiplex.directory.detach number)
  | .stop =>
      if multiplex.pending.isNone && multiplex.reader.stoppable then
        multiplex.withReader .stopped
      else multiplex
  | .restart =>
      if multiplex.pending.isNone && multiplex.reader.interruptible &&
          multiplex.reader.outdated multiplex.hub then
        multiplex.withReader .ready
      else multiplex
  | .shuffle order => multiplex.withReader (reordered order multiplex.reader.state)
  | .proceed =>
      if multiplex.pending.isNone then
        let looked := multiplex.reader.look multiplex.hub multiplex.now
        ({ multiplex with hub := looked.2.2 }.withReader looked.2.1).hand looked.1
      else multiplex
  | .dispatch => multiplex.dispatchNext

/-- Makes moves one after another. -/
def run (multiplex : Multiplex) (moves : List Move) : Multiplex := moves.foldl move multiplex

/-- A reader that starts on a backend without messages, with no socket yet. -/
def start (settings : SocketSettings) (storeSettings : StoreSettings) (label : String)
    (failingReceives : List Nat) (depth : Nat) (begun : Instant) : Multiplex where
  now := begun
  hub :=
    { site := { backend := { Backend.inMemory label storeSettings with failingReceives } }
      directory := .ofDepth depth }
  reader := { settings }

theorem run_append (multiplex : Multiplex) (first second : List Move) :
    multiplex.run (first ++ second) = (multiplex.run first).run second :=
  List.foldl_append

/-! ## The books of the channels -/

/-- What is known of a channel: each message that it accepted was handed over, or has expired, or
waits, and those that were handed over or have expired stood in front of those that wait. -/
structure Accounted (now : Instant) (accepted : List Queued) (handed : List Message)
    (ledger : Ledger) (queue : List Queued) : Prop where
  accepted : accepted = ledger.entries ++ queue
  handed : handed = ledger.delivered
  fates : ∀ entry ∈ ledger,
    entry.2 = .delivered ∨ entry.2 = .expired ∧ entry.1.expiresAt ≤ now

/-- Each channel keeps books of what it has accepted and what was handed over. -/
def Kept (multiplex : Multiplex) : Prop :=
  ∀ channel, ∃ ledger, Accounted multiplex.now (under channel multiplex.accepted)
    (under channel multiplex.handed) ledger (multiplex.store.queue channel)

variable {multiplex : Multiplex}

/-- The books go on where every queue makes a step that fits what was accepted and handed over. -/
theorem Kept.step (kept : multiplex.Kept) {after : Multiplex} (now : after.now = multiplex.now)
    (steps : ∀ channel, ∃ added taken,
      QueueStep multiplex.now (multiplex.store.queue channel) added taken
        (after.store.queue channel) ∧
      under channel after.accepted = under channel multiplex.accepted ++ added.toList ∧
      under channel after.handed = under channel multiplex.handed ++ taken.toList) :
    after.Kept := by
  intro channel
  rcases kept channel with ⟨ledger, accounted⟩
  rcases steps channel with ⟨added, taken, step, accepted, handed⟩
  rcases step.settle with ⟨more, conserved, delivered, fates⟩
  refine ⟨ledger ++ more, ?_, ?_, ?_⟩
  · rw [accepted, accounted.accepted, List.append_assoc, conserved, Ledger.entries_append,
      List.append_assoc]
  · rw [handed, accounted.handed, Ledger.delivered_append, delivered]
  · intro entry mem
    rw [now]
    rcases List.mem_append.mp mem with old | new
    · exact accounted.fates entry old
    · rcases fates entry new with ⟨fate, -⟩ | expired
      · exact Or.inl fate
      · exact Or.inr expired

theorem Kept.same (kept : multiplex.Kept) {after : Multiplex} (now : after.now = multiplex.now)
    (queues : ∀ channel, after.store.queue channel = multiplex.store.queue channel)
    (accepted : after.accepted = multiplex.accepted) (handed : after.handed = multiplex.handed) :
    after.Kept := by
  apply kept.step now
  intro channel
  refine ⟨none, none, ?_, ?_, ?_⟩
  · rw [queues]
    exact .refl _ _
  · rw [accepted]
    exact (List.append_nil _).symm
  · rw [handed]
    exact (List.append_nil _).symm

theorem Kept.push (kept : multiplex.Kept) (target : String) (message : Message) :
    (multiplex.move (.push target message)).Kept := by
  rw [move]
  rcases multiplex.store.push_cases multiplex.now target message with
    ⟨after, refused, steps⟩ | ⟨after, accepted, steps⟩
  · rw [refused]
    refine kept.step rfl ?_
    intro channel
    exact ⟨none, none, steps channel, (List.append_nil _).symm, (List.append_nil _).symm⟩
  · rw [accepted]
    refine kept.step rfl ?_
    intro channel
    refine ⟨_, none, steps channel, (under_append _ _ _).trans (congrArg _ ?_),
      (List.append_nil _).symm⟩
    by_cases same : target = channel
    · subst same
      rw [under_self, if_pos rfl]
      rfl
    · rw [under_of_ne same, if_neg same]
      rfl

theorem store_hand (multiplex : Multiplex) (brought : Option (String × Message)) :
    (multiplex.hand brought).store = multiplex.store :=
  congrArg Backend.store (Site.backend_reportAll _ _)

theorem Kept.proceed (kept : multiplex.Kept) : (multiplex.move .proceed).Kept := by
  have looks := Reader.looks_look multiplex.reader multiplex.hub multiplex.now
  rw [move]
  split
  case isFalse => exact kept
  case isTrue =>
      dsimp only
      generalize multiplex.reader.look multiplex.hub multiplex.now = looked at looks ⊢
      refine kept.step ?_ ?_
      · rfl
      · intro channel
        refine ⟨none, (looked.1.bind fun brought =>
          if brought.1 = channel then some brought.2 else none), ?_, (List.append_nil _).symm, ?_⟩
        · rw [store_hand]
          exact looks.queue channel
        · change under channel (multiplex.handed ++ looked.1.toList) = _
          rw [under_append]
          rcases looked with ⟨_ | ⟨source, message⟩, after⟩
          · rfl
          · by_cases same : source = channel
            · subst same
              rw [Option.bind_some, if_pos rfl]
              exact congrArg _ (under_self source message)
            · rw [Option.bind_some, if_neg same]
              exact congrArg _ (under_of_ne same message)

theorem Kept.dispatch (kept : multiplex.Kept) : multiplex.dispatchNext.Kept := by
  rw [dispatchNext]
  split
  · exact kept
  · exact kept.same rfl (fun _ => rfl) rfl rfl
  · split
    · exact kept.same rfl (fun _ => rfl) rfl rfl
    · refine kept.same ?_ ?_ rfl rfl
      · rfl
      · intro channel
        exact congrArg (fun backend => backend.store.queue channel) (Site.backend_reportAll _ _)

theorem Kept.move (kept : multiplex.Kept) (move : Move) : (multiplex.move move).Kept := by
  cases move with
  | wait duration =>
      intro channel
      rcases kept channel with ⟨ledger, accounted⟩
      refine ⟨ledger, accounted.accepted, accounted.handed, ?_⟩
      intro entry mem
      rcases accounted.fates entry mem with delivered | ⟨expired, past⟩
      · exact Or.inl delivered
      · exact Or.inr ⟨expired, Nat.le_add_right_of_le past⟩
  | push channel message => exact kept.push channel message
  | announce | enter name | tell | unregister name | detach number | shuffle order =>
      exact kept.same rfl (fun _ => rfl) rfl rfl
  | retrieve number =>
      rw [Multiplex.move]
      split
      · exact kept.same rfl (fun _ => rfl) rfl rfl
      · exact kept.same rfl (fun _ => rfl) rfl rfl
  | stop =>
      rw [Multiplex.move]
      split
      · exact kept.same rfl (fun _ => rfl) rfl rfl
      · exact kept
  | restart =>
      rw [Multiplex.move]
      split
      · exact kept.same rfl (fun _ => rfl) rfl rfl
      · exact kept
  | proceed => exact kept.proceed
  | dispatch => exact kept.dispatch

theorem Kept.run (kept : multiplex.Kept) (moves : List Move) : (multiplex.run moves).Kept := by
  induction moves generalizing multiplex with
  | nil => exact kept
  | cons move rest ih => exact ih (kept.move move)

theorem kept_start (settings : SocketSettings) (storeSettings : StoreSettings) (label : String)
    (failingReceives : List Nat) (depth : Nat) (begun : Instant) :
    (start settings storeSettings label failingReceives depth begun).Kept :=
  fun _ => ⟨[], rfl, rfl, fun _ mem => absurd mem List.not_mem_nil⟩

/-! ## The reader's own steps -/

/-- A delivery that is under way comes to what delivering the rest of its frames comes to. -/
theorem run_dispatch (multiplex : Multiplex) (channel : String) (frames : List Frame)
    (pending : multiplex.pending = some (channel, frames)) :
    ∃ count, (multiplex.run (List.replicate count .dispatch)).pending = none ∧
      (multiplex.run (List.replicate count .dispatch)).reader = multiplex.reader ∧
      (multiplex.run (List.replicate count .dispatch)).hub =
        { multiplex.hub with
          directory := (multiplex.directory.dispatchAll channel frames).2 }.report?
          (match (multiplex.directory.dispatchAll channel frames).1 with
            | .ok () => none
            | .error error => refusalReport? error) := by
  induction frames generalizing multiplex with
  | nil =>
      -- one more move finds that no frame is left
      refine ⟨1, ?_⟩
      change multiplex.dispatchNext.pending = none ∧ multiplex.dispatchNext.reader = _ ∧
        multiplex.dispatchNext.hub = _
      rw [dispatchNext, pending]
      exact ⟨rfl, rfl, rfl⟩
  | cons frame rest ih =>
      rw [Directory.dispatchAll]
      cases tried : multiplex.directory.dispatch channel frame with
      | mk result directory =>
          cases result with
          | ok done =>
              have next : multiplex.dispatchNext =
                  { multiplex.withDirectory directory with
                    pending := some (channel, rest)
                    queued := multiplex.queued ++
                      (multiplex.directory.owners.find? channel).toList.map fun number =>
                        (number, frame) } := by
                rw [dispatchNext, pending]
                simp only [tried]
              rcases ih multiplex.dispatchNext (by rw [next]) with ⟨count, free, reader, hub⟩
              refine ⟨count + 1, ?_⟩
              rw [List.replicate_succ]
              change (multiplex.dispatchNext.run _).pending = none ∧ _ ∧ _
              refine ⟨free, ?_, ?_⟩
              · exact reader.trans (by rw [next]; rfl)
              · refine hub.trans ?_
                rw [next]
                rfl
          | error error =>
              have next : multiplex.dispatchNext =
                  { multiplex with
                    hub := { multiplex.hub with directory }.report? (refusalReport? error)
                    pending := none } := by
                rw [dispatchNext, pending]
                simp only [tried]
              refine ⟨1, ?_⟩
              change multiplex.dispatchNext.pending = none ∧ multiplex.dispatchNext.reader = _ ∧
                multiplex.dispatchNext.hub = _
              rw [next]
              exact ⟨rfl, rfl, rfl⟩

/-- A move of the reader. -/
def Move.OfReader : Move → Prop
  | .stop | .restart | .proceed | .dispatch => True
  | _ => False

theorem deliver_eq (hub : Hub) (channel : String) (message : Message) :
    (hub.deliver channel message).2 =
      match Send.framesOf message with
      | .error _ => hub.report? (malformedReport? message)
      | .ok frames =>
          { hub with directory := (hub.directory.dispatchAll channel frames).2 }.report?
            (match (hub.directory.dispatchAll channel frames).1 with
              | .ok () => none
              | .error error => refusalReport? error) := by
  rw [Hub.deliver, Directory.deliver, malformedReport?]
  cases Send.framesOf message with
  | error error => rfl
  | ok frames =>
      dsimp only
      rcases hub.directory.dispatchAll channel frames with ⟨error | done, directory⟩
      · cases error <;> rfl
      · rfl

/-- Moves of the reader that lead to a state of the reader and to a hub, with nothing left to be
delivered. -/
structure Leads (multiplex : Multiplex) (moves : List Move) (next : Reader × Hub) : Prop where
  own : ∀ move ∈ moves, move.OfReader
  free : (multiplex.run moves).pending = none
  reached : ((multiplex.run moves).reader, (multiplex.run moves).hub) = next

theorem leads_of_move (move : Move) (own : move.OfReader) {next : Reader × Hub}
    (free : (multiplex.move move).pending = none)
    (reached : ((multiplex.move move).reader, (multiplex.move move).hub) = next) :
    multiplex.Leads [move] next := by
  refine ⟨?_, free, reached⟩
  intro other mem
  rw [List.mem_singleton.mp mem]
  exact own

/-- A reader that proceeds looks, and then delivers what it has found frame by frame. -/
theorem exists_leads_proceed (multiplex : Multiplex) (free : multiplex.pending = none) :
    ∃ moves, multiplex.Leads moves
      ({ multiplex.reader with
          state := (multiplex.reader.proceed multiplex.hub multiplex.now).1 },
        (multiplex.reader.proceed multiplex.hub multiplex.now).2) := by
  have next : multiplex.move .proceed = _ := if_pos (by rw [free]; rfl)
  rw [Reader.proceed_eq]
  generalize multiplex.reader.look multiplex.hub multiplex.now = looked at next ⊢
  rcases looked with ⟨_ | ⟨channel, message⟩, state, hub⟩
  · refine ⟨[.proceed], leads_of_move .proceed trivial ?_ ?_⟩
    · rw [next]
      rfl
    · rw [next]
      rfl
  · rw [Reader.deliver, deliver_eq]
    cases read : Send.framesOf message with
    | error error =>
        refine ⟨[.proceed], leads_of_move .proceed trivial ?_ ?_⟩
        · rw [next]
          simp only [hand, Option.bind_some, read, Except.toOption, Option.map_none]
        · rw [next]
          rfl
    | ok frames =>
        have pending : (multiplex.move .proceed).pending = some (channel, frames) := by
          rw [next]
          simp only [hand, Option.bind_some, read, Except.toOption, Option.map_some]
        have hubNext : (multiplex.move .proceed).hub = hub := by
          rw [next]
          simp only [hand, Option.bind_some, malformedReport?, read]
          rfl
        have readerNext : (multiplex.move .proceed).reader = { multiplex.reader with state } := by
          rw [next]
          rfl
        rcases run_dispatch (multiplex.move .proceed) channel frames pending with
          ⟨count, done, reader, hubAfter⟩
        rw [directory, hubNext] at hubAfter
        refine ⟨.proceed :: List.replicate count .dispatch, ?_, done,
          Prod.ext (reader.trans readerNext) hubAfter⟩
        intro other mem
        rcases List.mem_cons.mp mem with rfl | mem
        · trivial
        · rw [(List.mem_replicate.mp mem).2]
          trivial

/-- Where nobody acts in between, the moves of the reader make the step of the reader. -/
theorem exists_leads_step (multiplex : Multiplex) (free : multiplex.pending = none)
    (shutdown : Bool) :
    ∃ moves, multiplex.Leads moves
      (multiplex.reader.step multiplex.hub multiplex.now shutdown) := by
  have idle : multiplex.pending.isNone = true := by rw [free]; rfl
  rw [Reader.step]
  split
  case isTrue stops =>
      have next : multiplex.move .stop = multiplex.withReader .stopped :=
        if_pos (by rw [idle, (Bool.and_eq_true_iff.mp stops).2]; rfl)
      refine ⟨[.stop], leads_of_move .stop trivial ?_ ?_⟩
      · rw [next]
        exact free
      · rw [next]
        rfl
  case isFalse =>
      split
      case isTrue cut =>
          have next : multiplex.move .restart = multiplex.withReader .ready :=
            if_pos (by rw [idle, Bool.true_and]; exact cut)
          refine ⟨[.restart], leads_of_move .restart trivial ?_ ?_⟩
          · rw [next]
            exact free
          · rw [next]
            rfl
      case isFalse => exact multiplex.exists_leads_proceed free

end Multiplex

end Courier.Socket
