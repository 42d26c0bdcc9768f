import Courier.Proofs.Socket.Writing
import Courier.Simulation.SocketBench

/-!
# Handlers and sessions

A handler at a bench opens a connection and lets one thing after another happen to it. Each of its
steps is the opening or a moment of a session in which nobody else does anything meanwhile: what
others do at the bench, they do between its steps. So what holds of all sessions holds of handlers.
-/

namespace Courier.Socket

open Directory (Record)
open Simulation (Handler Line SocketStage Standing)

namespace Connection

variable {connection : Connection} {chronicle : Chronicle} {queued : Bool}

/-- Replies where nobody else is. -/
def undisturbed (sends : Except ChannelError Unit) (writes : Bool) : Replies :=
  ⟨sends, writes, fun _ => []⟩

theorem spares_undisturbed (sends : Except ChannelError Unit) (writes : Bool) (number : Nat) :
    (undisturbed sends writes).Spares number :=
  fun _ => List.not_mem_nil

/-- A session and a handler have come to the same connection and the same directory. -/
def Alike (reached : Connection × Chronicle) (handled : Connection × Desk) : Prop :=
  reached.1 = handled.1 ∧ reached.2.record.directory = handled.2.hub.directory

section Desks

variable (now : Instant) {desk : Desk} (same : chronicle.record.directory = desk.hub.directory)

include same

theorem alike_finish (connection : Connection) (sends : Except ChannelError Unit)
    (writes : Bool) :
    Alike (connection.finish ((undisturbed sends writes).surroundings queued) chronicle)
      (connection.finish (Desk.surroundings now) desk) := by
  simp only [Alike, finish, sendOrReport_chronicle, directory_sendOrReport, true_and]
  change (chronicle.record.directory.unregister _).2 = (desk.hub.directory.unregister _).2
  rw [same]

theorem alike_forward (frame : Frame) (sends : Except ChannelError Unit) (writes : Bool) :
    Alike
      (connection, connection.forward ((undisturbed sends writes).surroundings queued) chronicle
        frame)
      (connection, connection.forward (Desk.surroundings now) desk frame) := by
  refine ⟨rfl, ?_⟩
  simp only [forward]
  cases Receive.ofFrame? connection.sendChannel frame with
  | none => exact same
  | some payload =>
      simp only [sendOrReport_chronicle, directory_sendOrReport]
      exact same

theorem alike_writeQueued (frame : Frame) :
    Alike
      (connection.writeQueued
        ((undisturbed (.ok ()) ((Desk.surroundings now).write desk frame).1).surroundings queued)
        chronicle frame)
      (connection.writeQueued (Desk.surroundings now) desk frame) := by
  have hub := directory_write now desk frame
  simp only [writeQueued, write_chronicle]
  generalize (Desk.surroundings now).write desk frame = outcome at hub ⊢
  rcases outcome with ⟨writes, after⟩
  have still : (chronicle.write ⟨frame, queued, writes⟩).record.directory = after.hub.directory :=
    same.trans (congrArg Hub.directory hub.symm)
  cases writes with
  | true => exact ⟨rfl, still⟩
  | false => exact alike_finish now still connection _ _

/-- An event comes to the same at a desk and in some session. -/
theorem exists_alike_handle (event : ConnectionEvent) :
    ∃ writes, Alike
      (connection.handle
        ((undisturbed (.ok ()) writes).surroundings event.queued?.isSome) chronicle event)
      (connection.handle (Desk.surroundings now) desk event) := by
  cases phase : connection.phase with
  | finished result =>
      refine ⟨true, ?_⟩
      simp only [handle, phase]
      exact ⟨rfl, same⟩
  | live closing =>
      simp only [handle, phase]
      cases event with
      | shutdown =>
          refine ⟨true, alike_finish now ?_ connection _ _⟩
          rw [directory_write]
          exact same
      | received frame =>
          refine ⟨true, ?_⟩
          dsimp only
          cases frame.isClose with
          | true => exact alike_finish now same connection _ _
          | false => exact alike_forward now same frame _ _
      | faulted fault =>
          refine ⟨true, ?_⟩
          dsimp only
          cases faultReport? fault with
          | none => exact alike_finish now same connection _ _
          | some entry =>
              have reported : chronicle.record.directory =
                  ((Desk.surroundings now).report desk entry).hub.directory := same
              exact alike_finish now reported connection _ _
      | ended | released => exact ⟨true, alike_finish now same connection _ _⟩
      | queued frame => exact ⟨_, alike_writeQueued now same frame⟩

end Desks

/-- A connection is opened at a desk as in some session. -/
theorem exists_alike_start (now : Instant) {desk : Desk} {record : Record}
    (same : record.directory = desk.hub.directory) (own : String) (info : ConnectionInfo) :
    ∃ sends, Alike
      (Connection.start ((undisturbed sends true).surroundings false) ⟨record, [], []⟩ own info)
      (Connection.start (Desk.surroundings now) desk own info) := by
  have number : (record.directory.register own).1 = (desk.hub.directory.register own).1 := by
    rw [same]
  cases sent : (Desk.surroundings now).send ((Desk.surroundings now).register desk own).2
    connectChannel (Connect.toMessage ⟨own, info.path, info.queryString, info.client⟩) with
  | mk result after =>
      have atDesk : after.hub.directory = (desk.hub.directory.register own).2 :=
        (congrArg (fun outcome => outcome.2.hub.directory) sent).symm
      have opened : (record.note (.register own)).directory = after.hub.directory :=
        (congrArg (fun directory => (directory.register own).2) same).trans atDesk.symm
      refine ⟨result, ?_⟩
      cases result with
      | ok =>
          simp only [Connection.start, sent]
          exact ⟨congrArg (Connection.mk own · (.live false)) number, opened⟩
      | error error =>
          simp only [Connection.start, sent]
          refine ⟨congrArg (Connection.mk own · (.finished (.error (.channel error)))) number, ?_⟩
          have gone := congrArg (fun directory => (directory.unregister own).2) opened
          rw [directory_write]
          exact gone

/-- What happens next to a connection at a bench is what it perceives on some cue. -/
theorem exists_cue_of_next (handler : Handler) (line : Line) {hub : Hub}
    (same : chronicle.record.directory = hub.directory) :
    ∃ cue, (connection.perceive chronicle cue).1 = (handler.next connection hub line).1 ∧
      (connection.perceive chronicle cue).2.record.directory =
        (handler.next connection hub line).2.2.1.directory := by
  rw [Handler.next]
  split
  · exact ⟨.shutdown, rfl, same⟩
  · rcases handler.endpoint.read line.toServer line.toClient with
      ⟨arrival, endpoint, toServer, toClient⟩
    cases arrival with
    | frame frame => exact ⟨.received frame, rfl, same⟩
    | fault fault => exact ⟨.faulted fault, rfl, same⟩
    | ended => exact ⟨.ended, rfl, same⟩
    | pending =>
        refine ⟨.outbound, ?_⟩
        simp only [perceive]
        split
        · have after : (chronicle.during [.receive connection.outbox]).record.directory =
              (hub.directory.receive connection.outbox).2 := by
            rw [← same]
            rfl
          simp only [Hub.retrieve, same]
          cases taken : hub.directory.receive connection.outbox with
          | mk retrieval directory =>
              rw [taken] at after
              cases retrieval with
              | frame | closed | empty => exact ⟨rfl, after⟩
        · exact ⟨rfl, same⟩

/-! ## Steps of handlers -/

/-- The directory of a bench behind a connection: once it has finished its queue is given up. -/
def settled (reached : Connection × Chronicle) : Directory :=
  match reached.1.result? with
  | none => reached.2.record.directory
  | some _ => reached.2.record.directory.detach reached.1.outbox

/-- A handler has taken a step to where a session is. -/
def StepsTo (stepped : Standing × Handler × SocketStage) (reached : Connection × Chronicle) :
    Prop :=
  stepped.2.1.connection = some reached.1 ∧ stepped.2.2.hub.directory = settled reached

theorem stepsTo_conclude (handler : Handler) (stage : SocketStage) (line : Line)
    {reached : Connection × Chronicle} {handled : Connection × Desk}
    (alike : Alike reached handled) : StepsTo (handler.conclude stage line handled) reached := by
  rcases reached with ⟨connection, chronicle⟩
  rcases handled with ⟨_, desk⟩
  rcases alike with ⟨rfl, same⟩
  dsimp only at same
  simp only [StepsTo, Handler.conclude, settled]
  cases connection.result? with
  | none => exact ⟨rfl, same.symm⟩
  | some result => exact ⟨rfl, by rw [same]; rfl⟩

/-- A handler opens its connection as a session is opened. -/
theorem exists_opening_of_step (handler : Handler) (stage : SocketStage) (now : Instant)
    {line : Line} {record : Record} (found : stage.lines[handler.number]? = some line)
    (unopened : handler.connection = none) (same : record.directory = stage.hub.directory) :
    ∃ opening : Replies, (∀ number, opening.Spares number) ∧
      StepsTo (handler.step stage now)
        (session record line.sendChannel handler.info opening []) := by
  have atDesk : record.directory =
      (Desk.mk stage.hub handler.endpoint line.toClient).hub.directory := same
  rcases exists_alike_start now atDesk line.sendChannel handler.info with ⟨sends, alike⟩
  refine ⟨undisturbed sends true, spares_undisturbed _ _, ?_⟩
  simp only [Handler.step, found, unopened]
  exact stepsTo_conclude handler stage line alike

theorem meet_undisturbed {closing : Bool} (live : connection.phase = .live closing)
    (sends : Except ChannelError Unit) (writes : Bool) (cue : Cue) :
    meet (connection, chronicle) ⟨undisturbed sends writes, cue⟩ =
      match connection.perceive chronicle cue with
      | (none, later) => (connection, later)
      | (some event, later) =>
          connection.handle ((undisturbed sends writes).surroundings event.queued?.isSome) later
            event := by
  simp only [meet, live]
  rfl

/-- A handler lets something happen to its connection as it happens in a session. -/
theorem exists_moment_of_step (handler : Handler) (stage : SocketStage) (now : Instant)
    {line : Line} {closing : Bool} (found : stage.lines[handler.number]? = some line)
    (opened : handler.connection = some connection) (live : connection.phase = .live closing)
    (same : chronicle.record.directory = stage.hub.directory) :
    ∃ moment : Moment, (∀ number, moment.Spares number) ∧
      StepsTo (handler.step stage now) (meet (connection, chronicle) moment) := by
  rcases exists_cue_of_next handler line same with ⟨cue, perceived, directory⟩
  have meets : ∀ writes, meet (connection, chronicle) ⟨undisturbed (.ok ()) writes, cue⟩ = _ :=
    fun writes => meet_undisturbed live (.ok ()) writes cue
  simp only [Handler.step, found, opened]
  generalize handler.next connection stage.hub line = outcome at perceived directory ⊢
  rcases outcome with ⟨event?, endpoint, hub, after⟩
  generalize connection.perceive chronicle cue = seen at perceived directory meets
  rcases seen with ⟨_, later⟩
  cases perceived
  cases event? with
  | none =>
      refine ⟨⟨undisturbed (.ok ()) true, cue⟩, spares_undisturbed _ _, ?_⟩
      rw [meets]
      refine ⟨rfl, ?_⟩
      simp only [settled, result?, live]
      exact directory.symm
  | some event =>
      have atDesk : later.record.directory =
          (Desk.mk hub endpoint after.toClient).hub.directory := directory
      rcases exists_alike_handle now atDesk event with ⟨writes, alike⟩
      refine ⟨⟨undisturbed (.ok ()) writes, cue⟩, spares_undisturbed _ _, ?_⟩
      rw [meets]
      exact stepsTo_conclude handler stage after alike

end Connection

end Courier.Socket
