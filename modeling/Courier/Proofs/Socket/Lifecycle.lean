import Courier.Proofs.Socket.Payload
import Courier.Socket.Connection
import Courier.Socket.Desk
import Mathlib.Data.List.Forall2

/-!
# The life of a connection

A connection is run against surroundings that keep a directory and note every message that it sends
or tries to send, with the directory as it is at that moment. Everything else about them is left
open: which messages are refused and which frames cannot be written, and what others do to the
directory while the connection waits for an event, for a write or for a message to be sent.

Whatever happens, a connection that cannot be announced sends nothing else. Any other sends its
announcement, then one message for each frame of data that it reads until its end, and at its end
one message that the socket is gone. By then it has taken its channel out of the directory.

What a connection does at a desk is among what it does in such surroundings.
-/

namespace Courier.Socket

/-- A message that was sent, or was to be sent, with the directory at that moment. -/
structure Attempt where
  channel : String
  message : Message
  directory : Directory

structure Scene where
  directory : Directory
  attempts : List Attempt := []

/-- What a connection has to wait for. -/
inductive Wait where
  | event
  | write
  | send

/-- What comes of a message to be sent and of a frame to be written, and what others do to the
directory during each wait. -/
structure Answers where
  sends : Except ChannelError Unit
  writes : Bool
  others : Wait → Directory → Directory

/-- An event of a connection, with what comes of the message and the frame that it brings about;
there is at most one of each. -/
structure Occurrence extends Answers where
  event : ConnectionEvent

namespace Answers

def surroundings (answers : Answers) : Surroundings Scene where
  register scene channel :=
    let (number, directory) := scene.directory.register channel
    (number, { scene with directory })
  unregister scene channel :=
    { scene with directory := (scene.directory.unregister channel).2 }
  send scene channel message :=
    (answers.sends,
      ⟨answers.others .send scene.directory,
        scene.attempts ++ [⟨channel, message, scene.directory⟩]⟩)
  write scene _ :=
    (answers.writes, { scene with directory := answers.others .write scene.directory })
  report scene _ := scene

/-- The scene after the wait for an event. -/
def awaited (answers : Answers) (scene : Scene) : Scene :=
  { scene with directory := answers.others .event scene.directory }

/-- Nobody else registers a channel. -/
def Spares (answers : Answers) (own : String) : Prop :=
  ∀ wait directory, directory.registered own = false →
    (answers.others wait directory).registered own = false

/-- Others register a channel of their own during each wait. -/
def besides (other : String) (sends : Except ChannelError Unit) (writes : Bool) : Answers :=
  ⟨sends, writes, fun _ directory => (directory.register other).2⟩

theorem spares_besides {other own : String} (differ : other ≠ own)
    (sends : Except ChannelError Unit) (writes : Bool) : (besides other sends writes).Spares own := by
  intro wait directory free
  simpa [besides, Directory.register, Directory.enter, Directory.announce, Directory.registered,
    Assoc.has, Assoc.find?_insert_of_ne _ _ differ.symm] using free

end Answers

namespace Occurrence

/-- Whether an event is the last one of a connection. -/
def ends (occurrence : Occurrence) : Bool :=
  match occurrence.event with
  | .received frame => frame.isClose
  | .queued _ => !occurrence.writes
  | .shutdown | .faulted _ | .ended | .released => true

/-- The frame of data that was read, if there was one. -/
def data? (occurrence : Occurrence) : Option Frame :=
  match occurrence.event with
  | .received frame => if frame.isControl then none else some frame
  | _ => none

/-- The frames of data that are read before the end. -/
def framesRead (occurrences : List Occurrence) : List Frame :=
  (occurrences.takeWhile fun occurrence => !occurrence.ends).filterMap data?

end Occurrence

/-- Events happen to a connection until it has finished. -/
def Connection.attend (connection : Connection) (scene : Scene) :
    List Occurrence → Connection × Scene
  | [] => (connection, scene)
  | occurrence :: rest =>
      match connection.phase with
      | .finished _ => (connection, scene)
      | .live _ =>
          let (connection, scene) :=
            connection.handle occurrence.surroundings (occurrence.awaited scene) occurrence.event
          connection.attend scene rest

/-- A connection from its start on. -/
def Connection.course (directory : Directory) (own : String) (info : ConnectionInfo)
    (opening : Answers) (occurrences : List Occurrence) : Connection × Scene :=
  let (connection, scene) := Connection.start opening.surroundings ⟨directory, []⟩ own info
  connection.attend scene occurrences

/-! ## What is sent -/

namespace Attempt

/-- The announcement of a socket, sent when its channel was in the directory. -/
def Connects (own : String) (info : ConnectionInfo) (attempt : Attempt) : Prop :=
  attempt.channel = connectChannel ∧
    Connect.ofMessage attempt.message = .ok ⟨own, info.path, info.queryString, info.client⟩ ∧
    attempt.directory.registered own = true

/-- A message that brings the content of a frame. -/
def Brings (own : String) (frame : Frame) (attempt : Attempt) : Prop :=
  attempt.channel = receiveChannel ∧
    ∃ payload, Receive.ofMessage attempt.message = .ok payload ∧ payload.sendChannel = own ∧
      payload.Carries frame

/-- The message that a socket is gone, sent when its channel was out of the directory. -/
def Disconnects (own : String) (attempt : Attempt) : Prop :=
  attempt.channel = disconnectChannel ∧ Disconnect.ofMessage attempt.message = .ok ⟨own⟩ ∧
    attempt.directory.registered own = false

end Attempt

@[simp]
theorem Directory.registered_unregister (directory : Directory) (channel : String) :
    (directory.unregister channel).2.registered channel = false := by
  simp [registered, unregister, Assoc.has]

namespace Connection

variable {answers : Answers} {connection : Connection} {scene : Scene} {own : String}

theorem sendOrReport_surroundings (channel : String) (message : Message) (words : String) :
    sendOrReport answers.surroundings scene channel message words =
      ⟨answers.others .send scene.directory,
        scene.attempts ++ [⟨channel, message, scene.directory⟩]⟩ := by
  rw [sendOrReport]
  cases sends : answers.sends <;> simp [Answers.surroundings, sends]

/-- The frames that a connection announces, at most one of a kind. -/
theorem forward_attempts (scene : Scene) (frame : Frame) :
    ∃ receives,
      (connection.forward answers.surroundings scene frame).attempts =
        scene.attempts ++ receives ∧
      List.Forall₂ (Attempt.Brings connection.sendChannel)
        (if frame.isControl then [] else [frame]) receives := by
  have control : frame.isControl = true ↔ Receive.ofFrame? connection.sendChannel frame = none :=
    by cases frame <;> simp [Frame.isControl, Receive.ofFrame?]
  cases made : Receive.ofFrame? connection.sendChannel frame with
  | none =>
      refine ⟨[], ?_, ?_⟩
      · simp [forward, made]
      · simp [control.mpr made]
  | some payload =>
      refine ⟨[⟨receiveChannel, payload.toMessage, scene.directory⟩], ?_, ?_⟩
      · simp [forward, made, sendOrReport_surroundings]
      · rw [if_neg (by simp [control, made])]
        apply List.Forall₂.cons _ .nil
        exact ⟨rfl, payload, Receive.ofMessage_toMessage payload,
          Receive.sendChannel_of_ofFrame? made, Receive.carries_of_ofFrame? made⟩

/-- How a connection leaves that had made some attempts before. -/
structure Leaves (own : String) (before : List Attempt) (connection : Connection)
    (scene : Scene) : Prop where
  done : connection.result? = some (.ok ())
  last : ∃ leave, leave.Disconnects own ∧ scene.attempts = before ++ [leave]
  gone : scene.directory.registered own = false

theorem leaves_finish {directory : Directory} {attempts : List Attempt}
    (spared : answers.Spares connection.sendChannel) :
    Leaves connection.sendChannel attempts
      (connection.finish answers.surroundings ⟨directory, attempts⟩).1
      (connection.finish answers.surroundings ⟨directory, attempts⟩).2 := by
  have gone := directory.registered_unregister connection.sendChannel
  simp only [finish, sendOrReport_surroundings]
  refine ⟨rfl, ⟨_, ⟨rfl, ?_, gone⟩, rfl⟩, ?_⟩
  · apply Disconnect.ofMessage_toMessage
  · apply spared
    exact gone

/-- What one event does: after the last one the connection leaves, after any other it goes on and
has announced what it read. -/
theorem handle_cases (occurrence : Occurrence) {closing : Bool}
    (live : connection.phase = .live closing)
    (spared : occurrence.Spares connection.sendChannel) (after : Connection × Scene)
    (handled : connection.handle occurrence.surroundings scene occurrence.event = after) :
    occurrence.ends = true ∧ Leaves connection.sendChannel scene.attempts after.1 after.2 ∨
      occurrence.ends = false ∧ after.1.sendChannel = connection.sendChannel ∧
        (∃ closing, after.1.phase = .live closing) ∧
        ∃ receives, after.2.attempts = scene.attempts ++ receives ∧
          List.Forall₂ (Attempt.Brings connection.sendChannel) occurrence.data?.toList
            receives := by
  subst handled
  rcases occurrence with ⟨answers, event⟩
  rcases scene with ⟨directory, attempts⟩
  change answers.Spares _ at spared
  simp only [handle, live]
  cases event with
  | shutdown => exact Or.inl ⟨rfl, leaves_finish spared⟩
  | faulted fault =>
      dsimp only
      refine Or.inl ⟨rfl, ?_⟩
      cases faultReport? fault with
      | none => exact leaves_finish spared
      | some entry => exact leaves_finish spared
  | ended | released => exact Or.inl ⟨rfl, leaves_finish spared⟩
  | received frame =>
      dsimp only
      cases close : frame.isClose with
      | true => exact Or.inl ⟨close, leaves_finish spared⟩
      | false =>
          refine Or.inr ⟨close, rfl, ⟨closing, live⟩, ?_⟩
          rcases forward_attempts ⟨directory, attempts⟩ frame with ⟨receives, sent, brought⟩
          refine ⟨receives, sent, ?_⟩
          cases control : frame.isControl <;> simpa [Occurrence.data?, control] using brought
  | queued frame =>
      have written : answers.surroundings.write ⟨directory, attempts⟩ frame =
          (answers.writes, ⟨answers.others .write directory, attempts⟩) := rfl
      simp only [writeQueued, written]
      cases writes : answers.writes with
      | true =>
          refine Or.inr ⟨by simp [Occurrence.ends, writes], rfl, ⟨_, rfl⟩, [], ?_, .nil⟩
          exact (List.append_nil _).symm
      | false =>
          refine Or.inl ⟨by simp [Occurrence.ends, writes], ?_⟩
          exact leaves_finish spared

theorem attend_of_finished {result : Except Error Unit}
    (finished : connection.phase = .finished result) (occurrences : List Occurrence) :
    connection.attend scene occurrences = (connection, scene) := by
  cases occurrences with
  | nil => rfl
  | cons occurrence rest => simp [attend, finished]

theorem phase_of_result? {result : Except Error Unit} (done : connection.result? = some result) :
    connection.phase = .finished result := by
  rcases connection with ⟨channel, outbox, phase⟩
  cases phase with
  | live closing => cases done
  | finished result => simpa [result?] using done

/-- A live connection announces what is read before the end and leaves at the end, if the end
comes. -/
theorem attend_cases (scene : Scene) (occurrences : List Occurrence) {closing : Bool}
    (live : connection.phase = .live closing)
    (spared : ∀ occurrence ∈ occurrences, occurrence.Spares connection.sendChannel) :
    ∃ receives,
      List.Forall₂ (Attempt.Brings connection.sendChannel) (Occurrence.framesRead occurrences)
        receives ∧
      if occurrences.any Occurrence.ends then
        Leaves connection.sendChannel (scene.attempts ++ receives)
          (connection.attend scene occurrences).1 (connection.attend scene occurrences).2
      else
        (connection.attend scene occurrences).2.attempts = scene.attempts ++ receives ∧
          (connection.attend scene occurrences).1.result? = none := by
  induction occurrences generalizing connection scene closing with
  | nil =>
      refine ⟨[], .nil, ?_⟩
      simp [attend, result?, live]
  | cons occurrence rest ih =>
      have first := spared occurrence List.mem_cons_self
      simp only [attend, live]
      -- One event is handled; what the rest does is known from the induction.
      generalize handled : connection.handle occurrence.surroundings (occurrence.awaited scene)
        occurrence.event = after
      rcases handle_cases occurrence live first after handled with
        ⟨ends, leaves⟩ | ⟨goesOn, own, ⟨still, stillLive⟩, read, sent, brought⟩
      · refine ⟨[], ?_, ?_⟩
        · simp [Occurrence.framesRead, ends]
        · rw [attend_of_finished (phase_of_result? leaves.done)]
          simpa [ends, Answers.awaited] using leaves
      · have later : ∀ other ∈ rest, other.Spares after.1.sendChannel := by
          intro other mem
          rw [own]
          exact spared other (List.mem_cons_of_mem occurrence mem)
        rcases ih after.2 stillLive later with ⟨receives, follow, outcome⟩
        rw [own] at follow outcome
        refine ⟨read ++ receives, ?_, ?_⟩
        · have frames : Occurrence.framesRead (occurrence :: rest) =
              occurrence.data?.toList ++ Occurrence.framesRead rest := by
            cases data : occurrence.data? <;> simp [Occurrence.framesRead, goesOn, data]
          rw [frames]
          exact List.rel_append brought follow
        · simpa [goesOn, sent, Answers.awaited] using outcome

/-- A connection announces itself. It goes on from there, unless the announcement fails: then it
has given up, and its channel is out of the directory. -/
theorem start_cases (directory : Directory) (info : ConnectionInfo)
    (spared : answers.Spares own) (after : Connection × Scene)
    (started : Connection.start answers.surroundings ⟨directory, []⟩ own info = after) :
    ∃ connect : Attempt, connect.Connects own info ∧ after.2.attempts = [connect] ∧
      match answers.sends with
      | .ok () => after.1.sendChannel = own ∧ after.1.phase = .live false
      | .error error =>
          after.1.phase = .finished (.error (.channel error)) ∧
            after.2.directory.registered own = false := by
  subst started
  refine ⟨⟨connectChannel, Connect.toMessage ⟨own, info.path, info.queryString, info.client⟩,
    (directory.register own).2⟩, ⟨rfl, Connect.ofMessage_toMessage _, ?_⟩, ?_, ?_⟩
  · simp [Directory.register, Directory.enter, Directory.announce, Directory.registered, Assoc.has]
  · cases sends : answers.sends <;> simp [Connection.start, Answers.surroundings, sends]
  · cases sends : answers.sends with
    | ok => simp [Connection.start, Answers.surroundings, sends]
    | error error =>
        simp only [Connection.start, Answers.surroundings, sends, true_and]
        apply spared
        apply Directory.registered_unregister

/-! ## The whole life -/

/-- A connection whose announcement fails has sent nothing else and returns the failure. Any other
has sent its announcement, the frames of data that it read, in order, and once it has ended, that it
is gone; then it returns without an error. When it has returned, and already when it says that it is
gone, its channel is out of the directory. -/
theorem course_attempts (directory : Directory) (own : String) (info : ConnectionInfo)
    (opening : Answers) (occurrences : List Occurrence) (openingSpares : opening.Spares own)
    (spared : ∀ occurrence ∈ occurrences, occurrence.Spares own) :
    let (connection, scene) := course directory own info opening occurrences
    ∃ connect : Attempt, connect.Connects own info ∧
      match opening.sends with
      | .error error =>
          connection.result? = some (.error (.channel error)) ∧ scene.attempts = [connect] ∧
            scene.directory.registered own = false
      | .ok () =>
          ∃ receives,
            List.Forall₂ (Attempt.Brings own) (Occurrence.framesRead occurrences) receives ∧
            if occurrences.any Occurrence.ends then
              connection.result? = some (.ok ()) ∧
                (∃ leave, leave.Disconnects own ∧
                  scene.attempts = connect :: receives ++ [leave]) ∧
                scene.directory.registered own = false
            else connection.result? = none ∧ scene.attempts = connect :: receives := by
  generalize started :
    Connection.start opening.surroundings ⟨directory, []⟩ own info = after
  rcases start_cases directory info openingSpares after started with
    ⟨connect, connects, sent, outcome⟩
  simp only [course, started]
  refine ⟨connect, connects, ?_⟩
  cases sends : opening.sends with
  | error error =>
      rw [sends] at outcome
      rcases outcome with ⟨finished, gone⟩
      rw [attend_of_finished finished]
      refine ⟨?_, sent, gone⟩
      simp [result?, finished]
  | ok =>
      rw [sends] at outcome
      rcases outcome with ⟨same, live⟩
      subst same
      rcases attend_cases after.2 occurrences live spared with ⟨receives, brought, whole⟩
      refine ⟨receives, brought, ?_⟩
      rw [sent] at whole
      by_cases ends : occurrences.any Occurrence.ends = true
      · simp only [ends, if_true] at whole ⊢
        exact ⟨whole.done, whole.last, whole.gone⟩
      · simp only [ends] at whole ⊢
        exact ⟨whole.2, whole.1⟩

/-- A connection that is announced, reads a text while its backend is full and some bytes
afterwards, and ends when a frame cannot be written. What comes later is not read. -/
theorem course_attempts_write_fails :
    let own := "websocket.send!a"
    let info : ConnectionInfo := ⟨"/chat", "", none⟩
    let opening := Answers.besides "websocket.send!b" (.ok ()) true
    let occurrences : List Occurrence :=
      [⟨.besides "websocket.send!c" (.ok ()) true, .received (.ping [1])⟩,
        ⟨.besides "websocket.send!c" (.error (.channelFull receiveChannel)) true,
          .received (.text "hello")⟩,
        ⟨.besides "websocket.send!d" (.ok ()) true, .received (.binary [255, 0])⟩,
        ⟨.besides "websocket.send!d" (.error (.backendUnavailable "gone")) false, .queued (.text "back")⟩,
        ⟨.besides "websocket.send!d" (.ok ()) true, .received (.text "late")⟩]
    (opening.Spares own ∧ ∀ occurrence ∈ occurrences, occurrence.Spares own) ∧
      let (connection, scene) := course (.ofDepth 2) own info opening occurrences
      connection.result? = some (.ok ()) ∧ scene.directory.registered own = false ∧
        ∃ connect receives leave, connect.Connects own info ∧
          List.Forall₂ (Attempt.Brings own) [.text "hello", .binary [255, 0]] receives ∧
          leave.Disconnects own ∧ scene.attempts = connect :: receives ++ [leave] := by
  intro own info opening occurrences
  have openingSpares : opening.Spares own := Answers.spares_besides (by decide) _ _
  have spared : ∀ occurrence ∈ occurrences, occurrence.Spares own := by
    intro occurrence mem
    simp only [occurrences, List.mem_cons, List.not_mem_nil, or_false] at mem
    rcases mem with rfl | rfl | rfl | rfl | rfl <;> exact Answers.spares_besides (by decide) _ _
  refine ⟨⟨openingSpares, spared⟩, ?_⟩
  rcases course_attempts (.ofDepth 2) own info opening occurrences openingSpares spared with
    ⟨connect, connects, receives, brought, done, ⟨leave, leaves, sent⟩, gone⟩
  exact ⟨done, gone, connect, receives, leave, connects, brought, leaves, sent⟩

/-! ## Connections at desks -/

section Desks

variable (now : Instant) (desk : Desk)

theorem directory_write (frame : Frame) :
    ((Desk.surroundings now).write desk frame).2.hub = desk.hub := by
  simp only [Desk.surroundings, Desk.write]
  cases desk.endpoint.send desk.outbound frame with
  | mk result rest => cases result <;> rfl

theorem directory_sendOrReport (channel : String) (message : Message) (words : String) :
    (sendOrReport (Desk.surroundings now) desk channel message words).hub.directory =
      desk.hub.directory := by
  have sent : ((Desk.surroundings now).send desk channel message).2.hub.directory =
      desk.hub.directory := rfl
  rw [sendOrReport]
  cases outcome : (Desk.surroundings now).send desk channel message with
  | mk result after =>
      rw [outcome] at sent
      cases result with
      | ok => exact sent
      | error error => exact sent

/-- Surroundings in which nobody else is. -/
def alone (writes : Bool) : Answers := ⟨.ok (), writes, fun _ directory => directory⟩

theorem finish_alone (writes : Bool) (attempts : List Attempt) {directory : Directory}
    (same : desk.hub.directory = directory) :
    ∃ later, connection.finish (alone writes).surroundings ⟨directory, attempts⟩ =
      ((connection.finish (Desk.surroundings now) desk).1,
        ⟨(connection.finish (Desk.surroundings now) desk).2.hub.directory, later⟩) := by
  subst same
  simp only [finish, sendOrReport_surroundings, directory_sendOrReport]
  exact ⟨_, rfl⟩

/-- An event has the same end at a desk as in surroundings where nobody else is, and leaves the
same directory. -/
theorem exists_answers_of_desk (attempts : List Attempt) (event : ConnectionEvent) :
    ∃ answers : Answers, (∀ own, answers.Spares own) ∧ ∃ later,
      connection.handle answers.surroundings ⟨desk.hub.directory, attempts⟩ event =
        ((connection.handle (Desk.surroundings now) desk event).1,
          ⟨(connection.handle (Desk.surroundings now) desk event).2.hub.directory, later⟩) := by
  have spares (writes : Bool) (own : String) : (alone writes).Spares own := fun _ _ free => free
  cases phase : connection.phase with
  | finished result =>
      refine ⟨alone true, spares true, attempts, ?_⟩
      simp [handle, phase]
  | live closing =>
      simp only [handle, phase]
      cases event with
      | shutdown =>
          refine ⟨alone true, spares true, finish_alone now _ true attempts ?_⟩
          rw [directory_write]
          rfl
      | received frame =>
          refine ⟨alone true, spares true, ?_⟩
          cases close : frame.isClose with
          | true =>
              simp only [close, if_true]
              exact finish_alone now desk true attempts rfl
          | false =>
              simp only [close, Bool.false_eq_true, if_false, forward]
              cases made : Receive.ofFrame? connection.sendChannel frame with
              | none => exact ⟨attempts, rfl⟩
              | some payload =>
                  simp only [sendOrReport_surroundings, directory_sendOrReport]
                  exact ⟨_, rfl⟩
      | faulted fault =>
          refine ⟨alone true, spares true, ?_⟩
          dsimp only
          cases faultReport? fault with
          | none => exact finish_alone now desk true attempts rfl
          | some entry => exact finish_alone now _ true attempts rfl
      | ended | released =>
          exact ⟨alone true, spares true, finish_alone now desk true attempts rfl⟩
      | queued frame =>
          have hub := directory_write now desk frame
          cases written : (Desk.surroundings now).write desk frame with
          | mk writes after =>
              rw [written] at hub
              refine ⟨alone writes, spares writes, ?_⟩
              have alike : (alone writes).surroundings.write ⟨desk.hub.directory, attempts⟩ frame =
                  (writes, ⟨desk.hub.directory, attempts⟩) := rfl
              simp only [writeQueued, written, alike]
              cases writes with
              | true =>
                  refine ⟨attempts, ?_⟩
                  rw [hub]
              | false => exact finish_alone now after false attempts (by rw [hub])

end Desks

end Connection

end Courier.Socket
