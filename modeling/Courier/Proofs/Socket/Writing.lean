import Courier.Proofs.Socket.Lifecycle
import Courier.Proofs.Socket.Registrations

/-!
# What a connection writes

A connection is run together with the directory in which it is registered, and takes its frames from
the queue that was opened for it. Everything else is left open: in which order it is told to shut
down, hears from its socket and looks into its queue, what can be written and sent, and what others
do with the directory meanwhile. They may register and take out any channel, also this one, and put
frames into any queue, but they take nothing from the queue of the connection.

Whatever is taken from the queue is to be written at once, and the first frame that cannot be
written is the last one. So what is written from the queue is a beginning of what was accepted for
the channel. Behind a close frame nothing is taken any more, but the connection goes on reading.
-/

namespace Courier.Socket

open Directory (Call Record)

/-- A frame that was to be written: whether it came from the queue, and whether it was written. -/
structure Writing where
  frame : Frame
  queued : Bool
  done : Bool
  deriving DecidableEq

namespace Writing

/-- The frames from the queue that were to be written. -/
def tried (writings : List Writing) : List Frame :=
  (writings.filter fun writing => writing.queued).map frame

/-- The frames from the queue that were written. -/
def written (writings : List Writing) : List Frame :=
  (writings.filter fun writing => writing.queued && writing.done).map frame

theorem tried_concat (writings : List Writing) (writing : Writing) :
    tried (writings ++ [writing]) =
      tried writings ++ if writing.queued then [writing.frame] else [] := by
  cases queued : writing.queued <;> simp [tried, queued]

theorem written_concat (writings : List Writing) (writing : Writing) :
    written (writings ++ [writing]) =
      written writings ++ if writing.queued && writing.done then [writing.frame] else [] := by
  cases both : writing.queued && writing.done <;> simp [written, both]

end Writing

/-- What happened to a directory, what a connection wrote or tried to write, and what it sent or
tried to send. -/
structure Chronicle where
  record : Record
  writings : List Writing := []
  attempts : List Attempt := []

namespace Chronicle

def during (chronicle : Chronicle) (calls : List Call) : Chronicle :=
  { chronicle with record := calls.foldl Record.note chronicle.record }

def write (chronicle : Chronicle) (writing : Writing) : Chronicle :=
  { chronicle with writings := chronicle.writings ++ [writing] }

def attempt (chronicle : Chronicle) (channel : String) (message : Message) : Chronicle :=
  { chronicle with
    attempts := chronicle.attempts ++ [⟨channel, message, chronicle.record.directory⟩] }

end Chronicle

/-- What comes of a message to be sent and of a frame to be written, and what others do with the
directory during each wait. -/
structure Replies where
  sends : Except ChannelError Unit
  writes : Bool
  others : Wait → List Call

namespace Replies

/-- Surroundings that keep a chronicle. Each frame to be written comes from the queue, or none. -/
def surroundings (replies : Replies) (queued : Bool) : Surroundings Chronicle where
  register chronicle channel :=
    ((chronicle.record.directory.register channel).1, chronicle.during [.register channel])
  unregister chronicle channel := chronicle.during [.unregister channel]
  send chronicle channel message :=
    (replies.sends, (chronicle.attempt channel message).during (replies.others .send))
  write chronicle frame :=
    (replies.writes,
      (chronicle.write ⟨frame, queued, replies.writes⟩).during (replies.others .write))
  report chronicle _ := chronicle

/-- Nobody else takes frames from a queue. -/
def Spares (replies : Replies) (number : Nat) : Prop :=
  ∀ wait, Call.receive number ∉ replies.others wait

end Replies

/-- What a connection may find next: that it is to shut down, something from its socket, or the time
to look into its queue. -/
inductive Cue where
  | shutdown
  | received (frame : Frame)
  | faulted (fault : Fault)
  | ended
  | outbound

structure Moment extends Replies where
  cue : Cue

/-- Whether a cue is the last one of a connection that takes no frames any more. -/
def Cue.ends : Cue → Bool
  | .shutdown | .faulted _ | .ended => true
  | .received frame => frame.isClose
  | .outbound => false

/-- The frame that comes from the queue, if one does. -/
def ConnectionEvent.queued? : ConnectionEvent → Option Frame
  | .queued frame => some frame
  | _ => none

namespace Connection

/-- What happens to a connection that finds something. It looks into its queue only as long as it
takes frames. -/
def perceive (connection : Connection) (chronicle : Chronicle) :
    Cue → Option ConnectionEvent × Chronicle
  | .shutdown => (some .shutdown, chronicle)
  | .received frame => (some (.received frame), chronicle)
  | .faulted fault => (some (.faulted fault), chronicle)
  | .ended => (some .ended, chronicle)
  | .outbound =>
      if connection.takesFrames then
        let after := chronicle.during [.receive connection.outbox]
        match (chronicle.record.directory.receive connection.outbox).1 with
        | .frame frame => (some (.queued frame), after)
        | .closed => (some .released, after)
        | .empty => (none, after)
      else (none, chronicle)

/-- A connection finds something, unless it has finished. -/
def meet : Connection × Chronicle → Moment → Connection × Chronicle
  | (connection, chronicle), moment =>
      match connection.phase with
      | .finished _ => (connection, chronicle)
      | .live _ =>
          match connection.perceive (chronicle.during (moment.others .event)) moment.cue with
          | (none, chronicle) => (connection, chronicle)
          | (some event, chronicle) =>
              connection.handle (moment.surroundings event.queued?.isSome) chronicle event

/-- A connection from its start on. -/
def session (record : Record) (own : String) (info : ConnectionInfo) (opening : Replies)
    (moments : List Moment) : Connection × Chronicle :=
  moments.foldl meet (Connection.start (opening.surroundings false) ⟨record, [], []⟩ own info)

end Connection

/-! ## Which frames are written -/

/-- What a live connection has written, and whether it is closing. -/
inductive Served : Bool → List Writing → Prop
  | nothing : Served false []
  | queued {writings : List Writing} {frame : Frame} {closing : Bool}
      (before : Served false writings) (closes : frame.isClose = closing) :
      Served closing (writings ++ [⟨frame, true, true⟩])

/-- What a connection has written by some phase. -/
inductive Wrote : ConnectionPhase → List Writing → Prop
  | live {closing : Bool} {writings : List Writing} (served : Served closing writings) :
      Wrote (.live closing) writings
  | left {closing : Bool} {writings : List Writing} {result : Except Error Unit}
      (served : Served closing writings) : Wrote (.finished result) writings
  | failed {writings : List Writing} {frame : Frame} {result : Except Error Unit}
      (served : Served false writings) :
      Wrote (.finished result) (writings ++ [⟨frame, true, false⟩])
  | shutdown {closing done : Bool} {writings : List Writing} {result : Except Error Unit}
      (served : Served closing writings) :
      Wrote (.finished result)
        (writings ++ [⟨.close (some Connection.shutdownReason), false, done⟩])
  | refused {done : Bool} {result : Except Error Unit} :
      Wrote (.finished result) [⟨.close none, false, done⟩]

section Writings

open Writing

variable {closing : Bool} {writings earlier later : List Writing} {writing : Writing}

theorem Served.written_eq (served : Served closing writings) :
    written writings = tried writings := by
  induction served with
  | nothing => rfl
  | queued before closes ih =>
      rw [written_concat, tried_concat, ih]
      rfl

/-- A connection that is not closing has written no close frame. -/
theorem Served.isClose_of_mem (served : Served closing writings) (isOpen : closing = false)
    (mem : writing ∈ writings) : writing.frame.isClose = false := by
  induction served with
  | nothing => cases mem
  | queued before closes ih =>
      rcases List.mem_append.mp mem with old | new
      · exact ih rfl old
      · rw [List.mem_singleton.mp new, closes, isOpen]

theorem Served.no_close (served : Served false writings)
    (split : writings = earlier ++ writing :: later) : writing.frame.isClose ≠ true := by
  have mem : writing ∈ writings := by simp [split]
  rw [served.isClose_of_mem rfl mem]
  exact Bool.false_ne_true

/-- A close frame is the last frame that a live connection has written. -/
theorem Served.nothing_after_close (served : Served closing writings)
    (split : writings = earlier ++ writing :: later) (closes : writing.frame.isClose = true) :
    later = [] := by
  cases served with
  | nothing => simp at split
  | queued before =>
      rcases concat_eq_append_cons_cases split with ⟨isLast, _⟩ | ⟨rest, _, earlierSplit⟩
      · exact isLast
      · exact absurd closes (before.no_close earlierSplit)

variable {phase : ConnectionPhase}

theorem Wrote.served (wrote : Wrote (.live closing) writings) : Served closing writings := by
  cases wrote with
  | live served => exact served

theorem Wrote.written_prefix (wrote : Wrote phase writings) :
    written writings <+: tried writings := by
  cases wrote with
  | live served | left served => exact served.written_eq ▸ List.prefix_rfl
  | failed served | shutdown served =>
      rw [written_concat, tried_concat, served.written_eq]
      simp
  | refused => exact List.prefix_rfl

/-- After a close frame from the queue at most one other is to be written, to shut down. -/
theorem Wrote.after_close (wrote : Wrote phase writings)
    (split : writings = earlier ++ writing :: later) (queued : writing.queued = true)
    (closes : writing.frame.isClose = true) :
    later = [] ∨ ∃ done, later = [⟨.close (some Connection.shutdownReason), false, done⟩] := by
  cases wrote with
  | live served | left served => exact Or.inl (served.nothing_after_close split closes)
  | failed served =>
      rcases concat_eq_append_cons_cases split with ⟨isLast, _⟩ | ⟨rest, _, earlierSplit⟩
      · exact Or.inl isLast
      · exact absurd closes (served.no_close earlierSplit)
  | shutdown served =>
      rcases concat_eq_append_cons_cases split with ⟨_, rfl⟩ | ⟨rest, isRest, earlierSplit⟩
      · cases queued
      · rw [served.nothing_after_close earlierSplit closes] at isRest
        exact Or.inr ⟨_, isRest⟩
  | refused =>
      have lengths := congrArg List.length split
      simp only [List.length_append, List.length_cons, List.length_nil] at lengths
      exact Or.inl (List.eq_nil_of_length_eq_zero (by omega))

end Writings

/-! ## Where frames come from -/

theorem Directory.yielded?_perform (directory : Directory) {call : Call} {number : Nat}
    (other : call ≠ .receive number) : (directory.perform call).1.yielded? number = none := by
  cases call with
  | receive taken =>
      have differ : taken ≠ number := fun same => other (same ▸ rfl)
      simp only [perform]
      cases (directory.receive taken).1 <;> simp [Event.yielded?, differ]
  | register | unregister | dispatch | detach => rfl

theorem Directory.yielded?_receive (directory : Directory) (number : Nat) :
    (directory.perform (.receive number)).1.yielded? number =
      match (directory.receive number).1 with
      | .frame frame => some frame
      | _ => none := by
  simp only [perform]
  cases (directory.receive number).1 <;> simp [Event.yielded?]

/-- The registration of a connection: what had happened before, the channel, and the number of the
queue. -/
structure Lease where
  before : List Directory.Event
  own : String
  number : Nat

def Lease.HeldBy (lease : Lease) (connection : Connection) : Prop :=
  connection.sendChannel = lease.own ∧ connection.outbox = lease.number

/-- What was taken from the queue of a connection was to be written, or still is. -/
structure Draws (lease : Lease) (chronicle : Chronicle) (pending : Option Frame) : Prop where
  sound : ∃ limit, Record.Sound limit chronicle.record
  taken : ∃ since,
    chronicle.record.events = lease.before ++ .registered lease.own lease.number :: since ∧
      Directory.yielded lease.number since = Writing.tried chronicle.writings ++ pending.toList

namespace Draws

variable {lease : Lease} {chronicle : Chronicle} {pending rest : Option Frame}

theorem attempt (draws : Draws lease chronicle pending) (channel : String) (message : Message) :
    Draws lease (chronicle.attempt channel message) pending := ⟨draws.sound, draws.taken⟩

/-- A frame from the queue has come where it was to go once it is to be written. -/
theorem writeQueued {frame : Frame} (draws : Draws lease chronicle (some frame)) (done : Bool) :
    Draws lease (chronicle.write ⟨frame, true, done⟩) none := by
  refine ⟨draws.sound, ?_⟩
  simpa [Chronicle.write, Writing.tried_concat] using draws.taken

theorem writeOther (draws : Draws lease chronicle pending) (frame : Frame) (done : Bool) :
    Draws lease (chronicle.write ⟨frame, false, done⟩) pending := by
  refine ⟨draws.sound, ?_⟩
  simpa [Chronicle.write, Writing.tried_concat] using draws.taken

theorem call (draws : Draws lease chronicle pending) (call : Call)
    (frames : pending.toList ++
      ((chronicle.record.directory.perform call).1.yielded? lease.number).toList = rest.toList) :
    Draws lease (chronicle.during [call]) rest := by
  rcases draws.sound with ⟨limit, sound⟩
  rcases draws.taken with ⟨since, split, yielded⟩
  refine ⟨⟨limit, sound.run [call]⟩, since ++ [(chronicle.record.directory.perform call).1], ?_, ?_⟩
  · change chronicle.record.events ++ _ = _
    rw [split, List.append_assoc, List.cons_append]
    rfl
  · rw [Directory.yielded_concat, yielded, List.append_assoc, frames]
    rfl

theorem during (draws : Draws lease chronicle pending) {calls : List Call}
    (spared : Call.receive lease.number ∉ calls) :
    Draws lease (chronicle.during calls) pending := by
  induction calls generalizing chronicle with
  | nil => exact draws
  | cons call rest ih =>
      rw [List.mem_cons, not_or] at spared
      have first : Draws lease (chronicle.during [call]) pending := by
        apply draws.call
        rw [Directory.yielded?_perform _ (Ne.symm spared.1)]
        exact List.append_nil _
      exact ih first spared.2

end Draws

namespace Connection

variable {lease : Lease} {connection : Connection} {chronicle : Chronicle} {replies : Replies}
  {queued : Bool}

theorem write_chronicle (frame : Frame) :
    (replies.surroundings queued).write chronicle frame =
      (replies.writes,
        (chronicle.write ⟨frame, queued, replies.writes⟩).during (replies.others .write)) := rfl

theorem sendOrReport_chronicle (channel : String) (message : Message) (words : String) :
    sendOrReport (replies.surroundings queued) chronicle channel message words =
      (chronicle.attempt channel message).during (replies.others .send) := by
  rw [sendOrReport]
  cases sends : replies.sends <;> simp [Replies.surroundings, sends]

/-- What holds of a connection and of what happened since it was registered. -/
structure Kept (lease : Lease) (reached : Connection × Chronicle) : Prop where
  held : lease.HeldBy reached.1
  draws : Draws lease reached.2 none
  wrote : Wrote reached.1.phase reached.2.writings

section Kept

variable (held : lease.HeldBy connection) (spared : replies.Spares lease.number)

include held spared

theorem kept_finish (draws : Draws lease chronicle none)
    (wrote : Wrote (.finished (.ok ())) chronicle.writings) :
    Kept lease (connection.finish (replies.surroundings queued) chronicle) := by
  simp only [finish, sendOrReport_chronicle]
  refine ⟨held, ?_, wrote⟩
  apply Draws.during _ (spared .send)
  apply Draws.attempt
  exact draws.during (by simp)

theorem kept_forward (draws : Draws lease chronicle none)
    (wrote : Wrote connection.phase chronicle.writings) (frame : Frame) :
    Kept lease
      (connection, connection.forward (replies.surroundings queued) chronicle frame) := by
  rw [forward]
  cases Receive.ofFrame? connection.sendChannel frame with
  | none => exact ⟨held, draws, wrote⟩
  | some payload =>
      simp only [sendOrReport_chronicle]
      exact ⟨held, (draws.attempt _ _).during (spared .send), wrote⟩

/-- A frame from the queue is written, or the connection leaves. -/
theorem kept_writeQueued {frame : Frame} (draws : Draws lease chronicle (some frame))
    (served : Served false chronicle.writings) :
    Kept lease (connection.writeQueued (replies.surroundings true) chronicle frame) := by
  have tried := (draws.writeQueued replies.writes).during (spared .write)
  simp only [writeQueued, write_chronicle]
  cases writes : replies.writes with
  | true =>
      rw [writes] at tried
      exact ⟨held, tried, .live (served.queued rfl)⟩
  | false =>
      rw [writes] at tried
      exact kept_finish held spared tried (.failed served)

/-- What an event comes to. A frame from the queue comes only while the connection takes frames. -/
theorem kept_handle {closing : Bool} (live : connection.phase = .live closing)
    (event : ConnectionEvent) (draws : Draws lease chronicle event.queued?)
    (served : Served closing chronicle.writings)
    (taking : event.queued?.isSome → closing = false) :
    Kept lease
      (connection.handle (replies.surroundings event.queued?.isSome) chronicle event) := by
  simp only [handle, live]
  cases event with
  | shutdown =>
      have tried := draws.writeOther (.close (some shutdownReason)) replies.writes
      exact kept_finish held spared (tried.during (spared .write)) (.shutdown served)
  | received frame =>
      dsimp only
      cases frame.isClose with
      | true => exact kept_finish held spared draws (.left served)
      | false => exact kept_forward held spared draws (live ▸ .live served) frame
  | faulted fault =>
      dsimp only
      cases faultReport? fault with
      | none => exact kept_finish held spared draws (.left served)
      | some entry => exact kept_finish held spared draws (.left served)
  | ended | released => exact kept_finish held spared draws (.left served)
  | queued frame =>
      cases taking rfl
      exact kept_writeQueued held spared draws served

end Kept

/-- What comes from the queue was taken there, while the connection takes frames, and nothing else
was taken. -/
theorem perceive_draws (held : lease.HeldBy connection) (draws : Draws lease chronicle none)
    (cue : Cue) :
    Draws lease (connection.perceive chronicle cue).2
        ((connection.perceive chronicle cue).1.bind ConnectionEvent.queued?) ∧
      (connection.perceive chronicle cue).2.writings = chronicle.writings ∧
      (((connection.perceive chronicle cue).1.bind ConnectionEvent.queued?).isSome →
        connection.takesFrames = true) := by
  cases cue with
  | shutdown | received | faulted | ended => exact ⟨draws, rfl, nofun⟩
  | outbound =>
      rw [perceive]
      cases takes : connection.takesFrames with
      | false => exact ⟨draws, rfl, nofun⟩
      | true =>
          have drawn : Draws lease (chronicle.during [.receive connection.outbox])
              (match (chronicle.record.directory.receive connection.outbox).1 with
                | .frame frame => some frame
                | _ => none) := by
            rw [← Directory.yielded?_receive, held.2]
            exact draws.call _ rfl
          simp only [if_true]
          cases taken : (chronicle.record.directory.receive connection.outbox).1 with
          | frame | closed | empty =>
              rw [taken] at drawn
              exact ⟨drawn, rfl, fun _ => trivial⟩

theorem kept_meet {reached : Connection × Chronicle} (kept : Kept lease reached) {moment : Moment}
    (spared : moment.Spares lease.number) : Kept lease (meet reached moment) := by
  rcases reached with ⟨connection, chronicle⟩
  rcases kept with ⟨held, draws, wrote⟩
  cases phase : connection.phase with
  | finished result =>
      simp only [meet, phase]
      exact ⟨held, draws, wrote⟩
  | live closing =>
      have waited := draws.during (spared .event)
      rcases perceive_draws held waited moment.cue with ⟨perceived, same, taking⟩
      simp only [meet, phase]
      generalize connection.perceive (chronicle.during (moment.others .event)) moment.cue =
        outcome at perceived same taking
      rcases outcome with ⟨event?, after⟩
      have still : Wrote connection.phase after.writings := same ▸ wrote
      cases event? with
      | none => exact ⟨held, perceived, still⟩
      | some event =>
          refine kept_handle held spared phase event perceived (phase ▸ still).served ?_
          intro queued
          simpa [takesFrames, phase] using taking queued

theorem kept_start {record : Record} {limit : Nat} (sound : Record.Sound limit record)
    (own : String) (info : ConnectionInfo) {opening : Replies}
    (spared : opening.Spares record.directory.outboxes.length) :
    Kept ⟨record.events, own, record.directory.outboxes.length⟩
      (Connection.start (opening.surroundings false) ⟨record, [], []⟩ own info) := by
  have registered : Draws ⟨record.events, own, record.directory.outboxes.length⟩
      (Chronicle.during ⟨record, [], []⟩ [.register own]) none :=
    ⟨⟨limit, sound.run [.register own]⟩, [], rfl, rfl⟩
  have announced := (registered.attempt connectChannel
    (Connect.toMessage ⟨own, info.path, info.queryString, info.client⟩)).during (spared .send)
  cases sends : opening.sends with
  | ok =>
      simp only [Connection.start, Replies.surroundings, sends]
      exact ⟨⟨rfl, rfl⟩, announced, .live .nothing⟩
  | error error =>
      simp only [Connection.start, Replies.surroundings, sends]
      refine ⟨⟨rfl, rfl⟩, ?_, .refused⟩
      apply Draws.during _ (spared .write)
      apply Draws.writeOther
      exact announced.during (by simp)

/-- Whatever happens, a connection keeps to its queue. -/
theorem kept_meets {reached : Connection × Chronicle} (kept : Kept lease reached)
    {moments : List Moment} (spared : ∀ moment ∈ moments, moment.Spares lease.number) :
    Kept lease (moments.foldl meet reached) := by
  induction moments generalizing reached with
  | nil => exact kept
  | cons moment rest ih =>
      have first := kept_meet kept (spared moment List.mem_cons_self)
      exact ih first fun other mem => spared other (List.mem_cons_of_mem moment mem)

/-! ## What is read -/

/-- A frame of data is announced, also while the connection is closing. -/
theorem meet_data {closing : Bool} (live : connection.phase = .live closing) {moment : Moment}
    {frame : Frame} (cue : moment.cue = .received frame) (data : frame.isControl = false) :
    ∃ attempt : Attempt, attempt.Brings connection.sendChannel frame ∧
      (meet (connection, chronicle) moment).2.attempts = chronicle.attempts ++ [attempt] ∧
      (meet (connection, chronicle) moment).1 = connection := by
  have goesOn : frame.isClose = false := by cases frame <;> first | rfl | cases data
  obtain ⟨payload, made⟩ : ∃ payload,
      Receive.ofFrame? connection.sendChannel frame = some payload := by
    cases frame with
    | text | binary => exact ⟨_, rfl⟩
    | ping | pong | close => cases data
  simp only [meet, live, cue, perceive, handle, goesOn, forward, made, sendOrReport_chronicle]
  exact ⟨_, ⟨rfl, payload, Receive.ofMessage_toMessage payload,
    Receive.sendChannel_of_ofFrame? made, Receive.carries_of_ofFrame? made⟩, rfl, rfl⟩

/-- A connection that is closing takes nothing from its queue and goes on until something else ends
it. -/
theorem meet_closing (closing : connection.phase = .live true) {moment : Moment}
    (goesOn : moment.cue.ends = false) : (meet (connection, chronicle) moment).1 = connection := by
  simp only [meet, closing]
  cases cue : moment.cue with
  | shutdown | faulted | ended => simp [cue, Cue.ends] at goesOn
  | outbound => simp [perceive, takesFrames, closing]
  | received frame =>
      have notClose : frame.isClose = false := by simpa [cue, Cue.ends] using goesOn
      simp [perceive, handle, closing, notClose]

/-! ## The whole session -/

/-- What a connection wrote from its queue is a beginning of what was accepted for its channel while
the registration lasted, and whatever it took from the queue it tried to write. Behind a close frame
from the queue there is nothing, except the close frame of a shutdown. As long as the connection is
live it announces each frame of data that it reads, and while it is closing only a shutdown or the
socket itself can end it. -/
theorem session_writes_initial_segment (depth : Nat) (calls : List Call) (own : String)
    (info : ConnectionInfo) (opening : Replies) (moments : List Moment) :
    let record := Record.ofCalls depth calls
    let number := record.directory.outboxes.length
    let reached (moments : List Moment) := session record own info opening moments
    opening.Spares number → (∀ moment ∈ moments, moment.Spares number) →
      (∃ since, (reached moments).2.record.events =
          record.events ++ .registered own number :: since ∧
        Directory.yielded number since = Writing.tried (reached moments).2.writings ∧
        Writing.written (reached moments).2.writings <+:
          Writing.tried (reached moments).2.writings ∧
        Writing.tried (reached moments).2.writings <+: Directory.accepted own since) ∧
      (∀ earlier close later, (reached moments).2.writings = earlier ++ close :: later →
        close.queued = true → close.frame.isClose = true →
          later = [] ∨ ∃ done, later = [⟨.close (some shutdownReason), false, done⟩]) ∧
      ∀ closing, (reached moments).1.phase = .live closing → ∀ moment : Moment,
        (∀ frame, moment.cue = .received frame → frame.isControl = false →
          ∃ attempt : Attempt, attempt.Brings own frame ∧
            (reached (moments ++ [moment])).2.attempts =
              (reached moments).2.attempts ++ [attempt] ∧
            (reached (moments ++ [moment])).1 = (reached moments).1) ∧
        (closing = true → moment.cue.ends = false →
          (reached (moments ++ [moment])).1 = (reached moments).1) := by
  intro record number reached openingSpares spared
  have sound : Record.Sound (max 1 depth) record := (Record.Sound.start depth).run calls
  have kept : Kept ⟨record.events, own, number⟩ (reached moments) :=
    kept_meets (kept_start sound own info openingSpares) spared
  have next : ∀ moment, reached (moments ++ [moment]) = meet (reached moments) moment := by
    intro moment
    simp [reached, session, List.foldl_append]
  simp only [next]
  generalize reached moments = before at kept ⊢
  rcases before with ⟨connection, chronicle⟩
  refine ⟨?_, fun _ _ _ => kept.wrote.after_close, ?_⟩
  · rcases kept.draws.sound with ⟨limit, sound⟩
    rcases kept.draws.taken with ⟨since, split, taken⟩
    rw [Option.toList_none, List.append_nil] at taken
    refine ⟨since, split, taken, kept.wrote.written_prefix, ?_⟩
    rcases sound.agrees _ _ _ _ split with ⟨outbox, agrees⟩
    rw [← taken]
    exact (List.prefix_append _ _).trans agrees.order
  · intro closing live moment
    refine ⟨?_, ?_⟩
    · intro frame cue data
      have same : connection.sendChannel = own := kept.held.1
      exact same ▸ meet_data live cue data
    · rintro rfl goesOn
      exact meet_closing live goesOn

/-- A text and a close frame are written; another text is accepted too late. -/
theorem session_writes_initial_segment_of_two :
    let opening : Replies := ⟨.ok (), true, fun
      | .send => [.dispatch "a" (.text "one"), .dispatch "a" (.close none)]
      | _ => []⟩
    let busy : Replies := ⟨.ok (), true, fun
      | .write => [.dispatch "a" (.text "two")]
      | _ => []⟩
    let moments : List Moment := [⟨busy, .outbound⟩, ⟨busy, .outbound⟩, ⟨busy, .outbound⟩]
    let reached := session (.ofCalls 2 []) "a" {} opening moments
    (opening.Spares 0 ∧ ∀ moment ∈ moments, moment.Spares 0) ∧
      Writing.written reached.2.writings = [.text "one", .close none] ∧
      ∃ since, reached.2.record.events = .registered "a" 0 :: since ∧
        Directory.accepted "a" since = [.text "one", .close none, .text "two", .text "two"] ∧
        Writing.written reached.2.writings <+: Directory.accepted "a" since := by
  intro opening busy moments reached
  have openingSpares : opening.Spares 0 := by
    intro wait
    cases wait <;> simp [opening]
  have spared : ∀ moment ∈ moments, moment.Spares 0 := by
    intro moment mem wait
    simp only [moments, List.mem_cons, List.not_mem_nil, or_false, or_self] at mem
    subst mem
    cases wait <;> simp [busy]
  rcases session_writes_initial_segment 2 [] "a" {} opening moments openingSpares spared with
    ⟨⟨since, split, _, written, tried⟩, _⟩
  have rest : reached.2.record.events.tail = since := congrArg List.tail split
  refine ⟨⟨openingSpares, spared⟩, by decide +kernel, since, split, ?_, written.trans tried⟩
  rw [← rest]
  decide +kernel

end Connection

end Courier.Socket
