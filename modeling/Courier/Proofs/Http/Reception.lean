import Courier.Proofs.Http.ExchangeStep
import Mathlib.Data.List.Induction

/-!
# A client and its reply channel

A client has sent its request and reads its reply channel, while messages arrive there, time passes,
and others use other channels. Putting a message into the queue and announcing it are two steps, so
that the client may find a message of which it has not heard.

The state also holds which messages have arrived, how many of them have been announced, and which
the client has read. Where no message expires unread and each is announced in time, what is read is
what has arrived, in order, and the client gives up only behind the last message. The reason is that
a client which has heard of all announcements has read all that was announced.
-/

namespace Courier.Http

/-- A client that reads its reply channel: the time, what it shares with others, and its exchange;
besides, what has arrived, how many of these messages have been announced, and what was read. -/
structure Reception where
  now : Instant
  site : Site
  exchange : Exchange
  arrived : List Message := []
  announced : Nat := 0
  read : List Message := []

namespace Reception

/-- What may happen next. -/
inductive Move where
  | wait (duration : Duration)
  | arrive (message : Message)
  | announce
  | read
  | other (call : Store.Call)

/-- The state with another store. -/
def withStore (reception : Reception) (store : Store) : Reception :=
  { reception with site.backend.store := store }

/-- The store that is shared. -/
def store (reception : Reception) : Store := reception.site.backend.store

/-- The channel that the client reads. -/
def channel (reception : Reception) : String := reception.exchange.replyChannel

/-- Makes a move. -/
def move (reception : Reception) : Move → Reception
  | .wait duration => { reception with now := reception.now + duration }
  | .arrive message =>
      match reception.store.push reception.now reception.channel message with
      | (.ok (), store) =>
          { reception.withStore store with arrived := reception.arrived ++ [message] }
      | (.error _, store) => reception.withStore store
  | .announce =>
      { reception.withStore reception.store.announce with announced := reception.arrived.length }
  | .read =>
      let brought := reception.exchange.brought? reception.site reception.now
      let (exchange, site) := reception.exchange.step reception.site reception.now
      { reception with exchange, site, read := reception.read ++ brought.toList }
  | .other call =>
      if call.avoids reception.channel then
        reception.withStore (reception.store.perform reception.now call).2
      else reception

/-- Makes moves one after another. -/
def run (reception : Reception) (moves : List Move) : Reception := moves.foldl move reception

/-- The state behind a step of the reading. -/
def took (reception : Reception) (read : Read) (backend : Backend) : Reception :=
  let (state, entries) := reception.exchange.accept reception.now read
  { reception with
    exchange := { reception.exchange with state }
    site := { reception.site with backend }.reportAll entries
    read := reception.read ++ read.message?.toList }

/-- A client that has just sent a request, if it could. -/
def start (settings : HttpSettings) (site : Site) (begun : Instant) (request : Request) :
    Reception :=
  { now := begun, site := (Exchange.start settings site begun request).2
    exchange := (Exchange.start settings site begun request).1 }

/-! ## In time -/

/-- As long as the client reads, everything on its channel is alive. -/
def Alive (reception : Reception) : Prop :=
  reception.exchange.reading?.isSome →
    ∀ queued ∈ reception.store.queue reception.channel, queued.live reception.now = true

/-- A client whose time is up has been told of the message that it waits for, if there is to be
another one. -/
def InTime (messages : List Message) (reception : Reception) : Prop :=
  ∀ reading, reception.exchange.reading? = some reading → reading.deadline ≤ reception.now →
    reception.read.length < messages.length → reception.read.length < reception.announced

/-- Moves by which each message is read before it expires, and is announced within the time that the
client waits for it. -/
structure Prompt (reception : Reception) (moves : List Move) : Prop where
  alive : ∀ before, before <+: moves → (reception.run before).Alive
  inTime : ∀ before, before ++ [.read] <+: moves →
    (reception.run before).InTime (reception.run moves).arrived

variable {reception : Reception} {log : List LogEntry} {messages : List Message}

theorem run_append (reception : Reception) (first second : List Move) :
    reception.run (first ++ second) = (reception.run first).run second :=
  List.foldl_append

theorem run_snoc (reception : Reception) (moves : List Move) (move : Move) :
    reception.run (moves ++ [move]) = (reception.run moves).move move :=
  run_append reception moves [move]

theorem arrived_move (reception : Reception) (move : Move) :
    reception.arrived <+: (reception.move move).arrived := by
  cases move with
  | wait duration => exact List.prefix_refl _
  | announce => exact List.prefix_refl _
  | read => exact List.prefix_refl _
  | arrive message =>
      rw [Reception.move]
      split
      · exact List.prefix_append _ _
      · exact List.prefix_refl _
  | other call =>
      rw [Reception.move]
      split
      · exact List.prefix_refl _
      · exact List.prefix_refl _

/-! ## A client that reads -/

/-- A reading waits for one channel and has not heard of more announcements than there were. -/
structure Attends (channel : String) (store : Store) (reading : Reading) : Prop where
  listens : reading.Listens channel
  heard : ∀ deadline receiver, reading = .waiting deadline receiver →
    receiver.heard ≤ store.announcements

/-- What holds as long as a client reads: it has come as far as what it has read leads, what has
arrived was read or waits, and a reading that has heard of everything has read what was
announced. -/
structure Open (log : List LogEntry) (reception : Reception) (reading : Reading) : Prop where
  reads : reception.exchange.reading? = some reading
  stage : reception.exchange.state.stage = Stage.awaiting.takeAll reception.read
  attends : Attends reception.channel reception.store reading
  arrived : reception.arrived =
    reception.read ++ (reception.store.queue reception.channel).map Queued.message
  announced : reception.announced ≤ reception.arrived.length
  informed : reading.HeardAll reception.store → reception.announced ≤ reception.read.length
  reliable : reception.site.backend.failingReceives = []
  logged : Exchange.Logged log reception.read reception.exchange.state.stage reception.site.log

/-- What holds of a client that has come to a result: it is the result of all messages. -/
structure Over (log : List LogEntry) (messages : List Message) (reception : Reception)
    (result : Except Error NativeResponse) : Prop where
  stage : reception.exchange.state.stage = .finished result
  whole : result =
    (Stage.awaiting.takeAll messages).result (.responseTimeout reception.channel)
  logged : Exchange.Logged log messages (.finished result) reception.site.log

/-- A client reads, or has come to its result. -/
def Sound (log : List LogEntry) (messages : List Message) (reception : Reception) : Prop :=
  (∃ reading, Open log reception reading) ∨ ∃ result, Over log messages reception result

theorem reading?_of_stage {exchange : Exchange} {result : Except Error NativeResponse}
    (stage : exchange.state.stage = .finished result) : exchange.reading? = none := by
  rcases exchange.over_or_reads with ⟨_, -, isOver⟩ | ⟨_, -, notOver⟩
  · exact isOver
  · exact absurd stage (notOver result)

theorem Over.move {result : Except Error NativeResponse} (isOver : Over log messages reception result)
    (move : Move) : Over log messages (reception.move move) result := by
  cases move with
  | wait duration => exact ⟨isOver.stage, isOver.whole, isOver.logged⟩
  | announce => exact ⟨isOver.stage, isOver.whole, isOver.logged⟩
  | arrive message =>
      rw [Reception.move]
      split
      · exact ⟨isOver.stage, isOver.whole, isOver.logged⟩
      · exact ⟨isOver.stage, isOver.whole, isOver.logged⟩
  | other call =>
      rw [Reception.move]
      split
      · exact ⟨isOver.stage, isOver.whole, isOver.logged⟩
      · exact isOver
  | read =>
      have stays := Exchange.step_of_over (reading?_of_stage isOver.stage) reception.site
        reception.now
      rw [Reception.move, stays.1, stays.2]
      exact ⟨isOver.stage, isOver.whole, isOver.logged⟩

namespace Open

variable {reading : Reading}

theorem alive (opened : Open log reception reading) (alive : reception.Alive) :
    ∀ queued ∈ reception.store.queue reception.channel, queued.live reception.now = true := by
  apply alive
  rw [opened.reads]
  rfl

theorem wait (opened : Open log reception reading) (duration : Duration) :
    Open log (reception.move (.wait duration)) reading :=
  ⟨opened.reads, opened.stage, opened.attends, opened.arrived, opened.announced, opened.informed,
    opened.reliable, opened.logged⟩

theorem announce (opened : Open log reception reading) :
    Open log (reception.move .announce) reading := by
  refine ⟨opened.reads, opened.stage, ⟨opened.attends.listens, ?_⟩, opened.arrived, Nat.le_refl _,
    ?_, opened.reliable, opened.logged⟩
  · intro deadline receiver waits
    exact Nat.le_succ_of_le (opened.attends.heard deadline receiver waits)
  · intro heardAll
    cases reading with
    | asking deadline => exact absurd heardAll id
    | waiting deadline receiver =>
        have heard := opened.attends.heard deadline receiver rfl
        change receiver.heard = reception.store.announcements + 1 at heardAll
        exact absurd heard (by omega)

/-- A store in which the queue of the channel has got some messages, and in which more was announced
perhaps, is all the same to the reading. -/
theorem withStore (opened : Open log reception reading) {store : Store} (more : List Message)
    (queue : (store.queue reception.channel).map Queued.message =
      (reception.store.queue reception.channel).map Queued.message ++ more)
    (announcements : reception.store.announcements ≤ store.announcements) :
    Open log { reception.withStore store with arrived := reception.arrived ++ more } reading := by
  refine ⟨opened.reads, opened.stage, ⟨opened.attends.listens, ?_⟩, ?_, ?_, ?_, opened.reliable,
    opened.logged⟩
  · intro deadline receiver waits
    exact Nat.le_trans (opened.attends.heard deadline receiver waits) announcements
  · change reception.arrived ++ more =
      reception.read ++ (store.queue reception.channel).map Queued.message
    rw [opened.arrived, queue, List.append_assoc]
  · change reception.announced ≤ (reception.arrived ++ more).length
    rw [List.length_append]
    exact Nat.le_add_right_of_le opened.announced
  · intro heardAll
    apply opened.informed
    cases reading with
    | asking deadline => exact heardAll
    | waiting deadline receiver =>
        have heard := opened.attends.heard deadline receiver rfl
        change receiver.heard = store.announcements at heardAll
        change receiver.heard = reception.store.announcements
        omega

theorem arrive (opened : Open log reception reading) (alive : reception.Alive)
    (message : Message) : Open log (reception.move (.arrive message)) reading := by
  have same := Store.announcements_push reception.store reception.now reception.channel message
  rw [Reception.move]
  rcases reception.store.push_cases reception.now reception.channel message with
    ⟨after, refused, steps⟩ | ⟨after, accepted, steps⟩
  · rw [refused] at same ⊢
    have queue := (steps reception.channel).conserved_of_alive (opened.alive alive)
    have kept := opened.withStore [] queue.symm (Nat.le_of_eq same.symm)
    rw [List.append_nil] at kept
    exact kept
  · rw [accepted] at same ⊢
    have queue := (steps reception.channel).conserved_of_alive (opened.alive alive)
    rw [if_pos rfl] at queue
    exact opened.withStore [message] queue.symm (Nat.le_of_eq same.symm)

theorem other (opened : Open log reception reading) (alive : reception.Alive)
    (call : Store.Call) : Open log (reception.move (.other call)) reading := by
  rw [Reception.move]
  split
  case isFalse => exact opened
  case isTrue avoided =>
      have step := Store.queueStep_of_avoids reception.store reception.now avoided
      have queue := step.split_of_alive (opened.alive alive)
      have kept := opened.withStore [] (queue.symm.trans (List.append_nil _).symm)
        (Store.le_announcements_perform reception.store reception.now call)
      rw [List.append_nil] at kept
      exact kept

theorem move_read (opened : Open log reception reading) :
    reception.move .read = reception.took
      (reading.step reception.site.backend reception.now reception.channel).1
      (reading.step reception.site.backend reception.now reception.channel).2 := by
  rw [Reception.move, Exchange.step_of_reading opened.reads,
    Exchange.brought?_of_reading opened.reads]
  rfl

/-- A reading that has found nothing, and has heard of everything since it last looked, has read
all that was announced. -/
theorem announced_le (opened : Open log reception reading) (alive : reception.Alive)
    (vain : reading.HeardAll reception.store ∨
      reception.store.live reception.now reception.channel = []) :
    reception.announced ≤ reception.read.length := by
  rcases vain with heardAll | silent
  · exact opened.informed heardAll
  · have all := List.filter_eq_self.mpr (opened.alive alive)
    rw [Store.live, all] at silent
    have arrived := opened.arrived
    rw [silent, List.append_nil] at arrived
    rw [← arrived]
    exact opened.announced

/-- A client that gives up has read everything that there is to be. -/
theorem read_eq_of_late (opened : Open log reception reading) (alive : reception.Alive)
    (inTime : reception.InTime messages) (part : reception.arrived <+: messages)
    (late : reading.deadline ≤ reception.now)
    (vain : reading.HeardAll reception.store ∨
      reception.store.live reception.now reception.channel = []) :
    reception.read = messages := by
  have announced := opened.announced_le alive vain
  have readPart : reception.read <+: messages := by
    apply List.IsPrefix.trans _ part
    rw [opened.arrived]
    exact List.prefix_append _ _
  apply readPart.eq_of_length_le
  apply Nat.le_of_not_lt
  intro more
  exact absurd (inTime reading opened.reads late more) (Nat.not_lt.mpr announced)

section Took

variable {read : Read} {backend : Backend}

theorem logged_took (opened : Open log reception reading) :
    Exchange.Logged log (reception.took read backend).read
      (reception.took read backend).exchange.state.stage
      (reception.took read backend).site.log := by
  have logged := opened.logged.accept opened.stage opened.reads reception.now read
  have same : (reception.took read backend).site.log =
      (reception.exchange.accept reception.now read).2.reverse ++ reception.site.log :=
    Site.log_reportAll _ _
  rw [same]
  exact logged

theorem goOn (opened : Open log reception reading) (alive : reception.Alive)
    (steps : Reading.Steps reception.site.backend reception.now reception.channel reading read
      backend) {next : Reading}
    (reads : (reception.took read backend).exchange.reading? = some next)
    (stage : (reception.took read backend).exchange.state.stage =
      Stage.awaiting.takeAll (reception.took read backend).read)
    (attends : Attends reception.channel backend.store next)
    (informed : next.HeardAll backend.store →
      reception.announced ≤ (reception.took read backend).read.length) :
    Open log (reception.took read backend) next := by
  have conserved := steps.queue.split_of_alive (opened.alive alive)
  have store : (reception.took read backend).store = backend.store := by
    rw [Reception.store, took, Site.backend_reportAll]
  refine ⟨reads, stage, ?_, ?_, opened.announced, ?_, ?_, opened.logged_took⟩
  · rw [store]
    exact attends
  · rw [store]
    change reception.arrived = reception.read ++ read.message?.toList ++
      (backend.store.queue reception.channel).map Queued.message
    rw [opened.arrived, List.append_assoc]
    exact congrArg _ conserved
  · rw [store]
    exact informed
  · rw [took, Site.backend_reportAll, steps.backend]
    exact opened.reliable

/-- Behind a message a client goes on, or it has a result that no further message changes. -/
theorem took_message (opened : Open log reception reading) (alive : reception.Alive)
    (part : reception.arrived <+: messages) {message : Message}
    (steps : Reading.Steps reception.site.backend reception.now reception.channel reading
      (.message message) backend) :
    Sound log messages (reception.took (.message message) backend) := by
  have stage : (reception.took (.message message) backend).exchange.state.stage =
      Stage.awaiting.takeAll (reception.read ++ [message]) := by
    rw [Stage.takeAll_snoc, ← opened.stage]
    exact reception.exchange.stage_accept reception.now (.message message)
  have readPart : reception.read ++ [message] <+: messages := by
    apply List.IsPrefix.trans _ part
    have conserved := steps.queue.split_of_alive (opened.alive alive)
    rw [opened.arrived, store, conserved, ← List.append_assoc]
    exact List.prefix_append _ _
  rcases (reception.took (.message message) backend).exchange.over_or_reads with
    ⟨result, isOver, -⟩ | ⟨next, reads, -⟩
  · right
    rcases readPart with ⟨rest, rfl⟩
    refine ⟨result, isOver, ?_, ?_⟩
    · -- the machine is over too, whatever comes behind
      rw [Stage.takeAll_append, ← stage, isOver, Stage.takeAll_finished]
      rfl
    · have logged := @logged_took _ _ _ (.message message) backend opened
      rw [isOver] at logged
      rw [Exchange.Logged, Exchange.headEntries_append (by simp)]
      exact logged
  · left
    have begins := Exchange.reading?_accept_message reception.now message reads opened.reads
    subst begins
    refine ⟨_, opened.goOn alive steps reads stage ⟨trivial, nofun⟩ nofun⟩

theorem took_failed (opened : Open log reception reading)
    (whole : reception.read = messages) :
    Over log messages
      (reception.took (.failed (.responseTimeout reception.channel)) backend)
      ((Stage.awaiting.takeAll messages).result (.responseTimeout reception.channel)) := by
  have stage : (reception.took (.failed (.responseTimeout reception.channel))
      backend).exchange.state.stage =
        .finished ((Stage.awaiting.takeAll messages).result (.responseTimeout reception.channel)) := by
    rw [← Stage.fail_eq_finished, ← whole, ← opened.stage]
    exact reception.exchange.stage_accept reception.now
      (.failed (.responseTimeout reception.channel))
  refine ⟨stage, rfl, ?_⟩
  have logged := @logged_took _ _ _ (.failed (.responseTimeout reception.channel)) backend opened
  rw [← stage, ← whole, ← List.append_nil reception.read]
  exact logged

theorem took_reading (opened : Open log reception reading) (alive : reception.Alive)
    {next : Reading}
    (steps : Reading.Steps reception.site.backend reception.now reception.channel reading
      (.reading next) backend)
    (heard : ∀ deadline receiver, next = .waiting deadline receiver →
      receiver.heard ≤ backend.store.announcements)
    (informed : next.HeardAll backend.store → reception.announced ≤ reception.read.length) :
    Open log (reception.took (.reading next) backend) next := by
  have reads := Exchange.reading?_accept_reading reception.now next opened.reads
  have stage : (reception.took (.reading next) backend).exchange.state.stage =
      Stage.awaiting.takeAll (reception.took (.reading next) backend).read := by
    have read : (reception.took (.reading next) backend).read = reception.read :=
      List.append_nil _
    rw [read, ← opened.stage]
    exact reception.exchange.stage_accept reception.now (.reading next)
  apply opened.goOn alive steps reads stage ⟨steps.comes.listens, heard⟩
  intro heardAll
  exact Nat.le_trans (informed heardAll) (List.prefix_append _ _).length_le

end Took

theorem read (opened : Open log reception reading) (alive : reception.Alive)
    (inTime : reception.InTime messages) (part : reception.arrived <+: messages) :
    Sound log messages (reception.move .read) := by
  have steps := @Reading.steps_step _ reception.now _ opened.reliable _ opened.attends.listens
  rw [opened.move_read]
  generalize reading.step reception.site.backend reception.now reception.channel = stepped at steps ⊢
  rcases stepped with ⟨read, backend⟩
  have comes := steps.comes
  cases comes with
  | message message => exact opened.took_message alive part steps
  | gaveUp late vain =>
      exact Or.inr ⟨_, opened.took_failed (opened.read_eq_of_late alive inTime part late vain)⟩
  | askAgain waited vain => exact Or.inl ⟨_, opened.took_reading alive steps nofun nofun⟩
  | waits early listens heard vain =>
      refine Or.inl ⟨_, opened.took_reading alive steps ?_ ?_⟩
      · intro deadline receiver same
        cases same
        rw [heard, steps.announcements]
      · intro _
        exact opened.announced_le alive vain

end Open

/-! ## Whole runs -/

theorem Sound.move (sound : Sound log messages reception) (move : Move) (alive : reception.Alive)
    (inTime : move = .read → reception.InTime messages)
    (part : reception.arrived <+: messages) : Sound log messages (reception.move move) := by
  rcases sound with ⟨reading, opened⟩ | ⟨result, isOver⟩
  · cases move with
    | wait duration => exact Or.inl ⟨reading, opened.wait duration⟩
    | arrive message => exact Or.inl ⟨reading, opened.arrive alive message⟩
    | announce => exact Or.inl ⟨reading, opened.announce⟩
    | other call => exact Or.inl ⟨reading, opened.other alive call⟩
    | read => exact opened.read alive (inTime rfl) part
  · exact Or.inr ⟨result, isOver.move move⟩

theorem Sound.run (sound : Sound log messages reception) {moves : List Move}
    (alive : ∀ before, before <+: moves → (reception.run before).Alive)
    (inTime : ∀ before, before ++ [.read] <+: moves → (reception.run before).InTime messages)
    (part : (reception.run moves).arrived <+: messages) :
    Sound log messages (reception.run moves) := by
  induction moves using List.reverseRecOn with
  | nil => exact sound
  | append_singleton front last ih =>
      have front_le : front <+: front ++ [last] := List.prefix_append _ _
      rw [run_snoc] at part ⊢
      have frontPart := (arrived_move _ last).trans part
      apply Sound.move _ last (alive front front_le) _ frontPart
      · apply ih _ _ frontPart
        · intro before le
          exact alive before (le.trans front_le)
        · intro before le
          exact inTime before (le.trans front_le)
      · rintro rfl
        exact inTime front (List.prefix_refl _)

end Reception

end Courier.Http
