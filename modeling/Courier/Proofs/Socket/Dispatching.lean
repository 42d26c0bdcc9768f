import Courier.Socket.Directory
import Mathlib.Data.List.Basic

/-!
# What becomes of frames and messages

A frame goes to the end of the queue to which its channel leads. It is refused if nobody takes from
the queue any more or there is none, and if the queue has no room; then nothing changes.

The frames of a message are dispatched one after another up to the first refusal, so those come into
the queue for which there is room. A message stands for one frame, or for its content and a close
frame behind it. So it is queued as a whole or not at all, but for one case: where there is room for
just one of two frames, the content is queued and the close frame is lost, although the message
counts as dropped.
-/

namespace Courier.Socket

namespace Directory

/-- A channel leads to a queue from which somebody still takes. -/
structure Leads (directory : Directory) (channel : String) (number : Nat) (outbox : Outbox) :
    Prop where
  registered : directory.owners.find? channel = some number
  opened : directory.outboxes[number]? = some outbox
  attached : outbox.attached = true

/-- The directory with frames added at the end of a queue. -/
def enqueue (directory : Directory) (number : Nat) (frames : List Frame) : Directory :=
  { directory with
    outboxes := directory.outboxes.modify number fun outbox =>
      { outbox with frames := outbox.frames ++ frames } }

variable {directory : Directory} {channel : String} {number : Nat} {outbox : Outbox}

theorem outbox?_eq_some_iff :
    directory.outbox? channel = some (number, outbox) ↔
      directory.Leads channel number outbox := by
  simp only [outbox?, Option.bind_eq_bind, Option.bind_eq_some_iff]
  constructor
  · rintro ⟨owner, registered, held, opened, isAttached⟩
    split at isAttached
    case isFalse => cases isAttached
    case isTrue attached =>
        cases isAttached
        exact ⟨registered, opened, attached⟩
  · intro leads
    exact ⟨number, leads.registered, outbox, leads.opened, if_pos leads.attached⟩

theorem Leads.unique (leads : directory.Leads channel number outbox) {other : Nat} {held : Outbox}
    (otherLeads : directory.Leads channel other held) : other = number ∧ held = outbox := by
  have found := outbox?_eq_some_iff.mpr leads
  rw [outbox?_eq_some_iff.mpr otherLeads] at found
  cases found
  exact ⟨rfl, rfl⟩

theorem astray_or_leads (directory : Directory) (channel : String) :
    (∀ number outbox, ¬directory.Leads channel number outbox) ∨
      ∃ number outbox, directory.Leads channel number outbox := by
  rw [or_iff_not_imp_left]
  intro somewhere
  simpa only [not_forall, not_not] using somewhere

/-! ## Queues with more frames -/

@[simp]
theorem depth_enqueue (directory : Directory) (number : Nat) (frames : List Frame) :
    (directory.enqueue number frames).depth = directory.depth := rfl

theorem enqueue_nil (directory : Directory) (number : Nat) :
    directory.enqueue number [] = directory := by
  have same : (fun outbox : Outbox => { outbox with frames := outbox.frames ++ [] }) = id := by
    funext outbox
    simp
  rw [enqueue, same, List.modify_id]

theorem enqueue_enqueue (directory : Directory) (number : Nat) (first second : List Frame) :
    (directory.enqueue number first).enqueue number second =
      directory.enqueue number (first ++ second) := by
  simp [enqueue, List.modify_modify_eq, Function.comp_def]

theorem enqueue_eq_set (opened : directory.outboxes[number]? = some outbox)
    (frames : List Frame) :
    directory.enqueue number frames =
      { directory with
        outboxes := directory.outboxes.set number
          { outbox with frames := outbox.frames ++ frames } } := by
  rw [enqueue, List.modify_eq_set_getElem?, opened]
  rfl

theorem getElem?_enqueue_self (opened : directory.outboxes[number]? = some outbox)
    (frames : List Frame) :
    (directory.enqueue number frames).outboxes[number]? =
      some { outbox with frames := outbox.frames ++ frames } := by
  simp [enqueue, opened]

theorem getElem?_enqueue_of_ne {other : Nat} (differ : other ≠ number) (frames : List Frame) :
    (directory.enqueue number frames).outboxes[other]? = directory.outboxes[other]? := by
  simp [enqueue, Ne.symm differ]

theorem Leads.enqueue (leads : directory.Leads channel number outbox) (frames : List Frame) :
    (directory.enqueue number frames).Leads channel number
      { outbox with frames := outbox.frames ++ frames } :=
  ⟨leads.registered, getElem?_enqueue_self leads.opened frames, leads.attached⟩

theorem Leads.enqueue_ne (leads : directory.Leads channel number outbox) {frame : Frame}
    {rest : List Frame} : directory.enqueue number (frame :: rest) ≠ directory := by
  intro same
  have held := getElem?_enqueue_self leads.opened (frame :: rest)
  rw [same, leads.opened, Option.some.injEq] at held
  have lengths := congrArg (fun outbox => outbox.frames.length) held
  simp at lengths

/-! ## One frame -/

theorem dispatch_of_room (leads : directory.Leads channel number outbox)
    (room : outbox.frames.length < directory.depth) (frame : Frame) :
    directory.dispatch channel frame = (.ok (), directory.enqueue number [frame]) := by
  rw [dispatch, outbox?_eq_some_iff.mpr leads, enqueue_eq_set leads.opened]
  exact if_neg (Nat.not_le.mpr room)

theorem dispatch_of_full (leads : directory.Leads channel number outbox)
    (full : directory.depth ≤ outbox.frames.length) (frame : Frame) :
    directory.dispatch channel frame = (.error (.sendQueueFull channel), directory) := by
  rw [dispatch, outbox?_eq_some_iff.mpr leads]
  exact if_pos full

theorem dispatch_of_astray (astray : ∀ number outbox, ¬directory.Leads channel number outbox)
    (frame : Frame) :
    directory.dispatch channel frame = (.error (.connectionGone channel), directory) := by
  have nowhere : directory.outbox? channel = none := by
    rw [Option.eq_none_iff_forall_ne_some]
    rintro ⟨number, outbox⟩ found
    exact astray number outbox (outbox?_eq_some_iff.mp found)
  rw [dispatch, nowhere]

/-! ## Several frames -/

theorem dispatchAll_of_room (leads : directory.Leads channel number outbox) {frames : List Frame}
    (room : outbox.frames.length + frames.length ≤ directory.depth) :
    directory.dispatchAll channel frames = (.ok (), directory.enqueue number frames) := by
  induction frames generalizing directory outbox with
  | nil => rw [dispatchAll, enqueue_nil]
  | cons frame rest ih =>
      rw [List.length_cons] at room
      have next := ih (leads.enqueue [frame]) (by
        rw [depth_enqueue, List.length_append, List.length_singleton]
        omega)
      rw [enqueue_enqueue, List.singleton_append] at next
      rw [dispatchAll, dispatch_of_room leads (by omega)]
      exact next

/-- Where there is no room for all frames, the first ones fill the queue. -/
theorem dispatchAll_of_full (leads : directory.Leads channel number outbox) {frames : List Frame}
    (nonempty : frames ≠ []) (full : directory.depth < outbox.frames.length + frames.length) :
    directory.dispatchAll channel frames =
      (.error (.sendQueueFull channel),
        directory.enqueue number (frames.take (directory.depth - outbox.frames.length))) := by
  induction frames generalizing directory outbox with
  | nil => exact absurd rfl nonempty
  | cons frame rest ih =>
      rw [List.length_cons] at full
      by_cases room : outbox.frames.length < directory.depth
      · have more : rest ≠ [] := by
          rintro rfl
          rw [List.length_nil] at full
          omega
        have longer : (outbox.frames ++ [frame]).length = outbox.frames.length + 1 := by
          rw [List.length_append, List.length_singleton]
        have next := ih (leads.enqueue [frame]) more (by rw [depth_enqueue, longer]; omega)
        have left : directory.depth - outbox.frames.length =
            directory.depth - (outbox.frames.length + 1) + 1 := by omega
        rw [enqueue_enqueue, List.singleton_append, depth_enqueue, longer] at next
        rw [dispatchAll, dispatch_of_room leads room, left, List.take_succ_cons]
        exact next
      · have none : directory.depth - outbox.frames.length = 0 := by omega
        rw [dispatchAll, dispatch_of_full leads (by omega), none, List.take_zero, enqueue_nil]

theorem dispatchAll_of_astray (astray : ∀ number outbox, ¬directory.Leads channel number outbox)
    {frames : List Frame} (nonempty : frames ≠ []) :
    directory.dispatchAll channel frames = (.error (.connectionGone channel), directory) := by
  cases frames with
  | nil => exact absurd rfl nonempty
  | cons frame rest => rw [dispatchAll, dispatch_of_astray astray]

end Directory

/-! ## The frames of a message -/

namespace Send

/-- A message stands for one frame, or for content with a close frame behind it. -/
theorem framesOf_cases {message : Message} {frames : List Frame}
    (read : framesOf message = .ok frames) :
    (∃ frame, frames = [frame]) ∨
      ∃ content, content.isClose = false ∧ frames = [content, .close none] := by
  have withClose : ∀ content : Frame, content.isClose = false → ∀ close : Bool,
      (∃ frame, [content] ++ (if close then [.close none] else []) = [frame]) ∨
        ∃ other : Frame, other.isClose = false ∧
          [content] ++ (if close then [Frame.close none] else []) = [other, .close none] := by
    intro content notClose close
    cases close with
    | false => exact Or.inl ⟨content, rfl⟩
    | true => exact Or.inr ⟨content, notClose, rfl⟩
  rw [framesOf] at read
  split at read
  · cases read
  · rename_i payload _
    rcases payload with ⟨content, binary, close⟩
    cases binary with
    | true =>
        simp only [Send.frames, if_true] at read
        split at read
        · cases read
          exact withClose _ rfl close
        · cases read
    | false =>
        simp only [Send.frames, Bool.false_eq_true, if_false] at read
        split at read
        · cases read
          exact withClose _ rfl close
        · -- an empty text that is not sent is one that only closes
          rename_i onlyCloses
          cases close with
          | true =>
              cases read
              exact Or.inl ⟨.close none, rfl⟩
          | false => simp at onlyCloses

theorem framesOf_ne_nil {message : Message} {frames : List Frame}
    (read : framesOf message = .ok frames) : frames ≠ [] := by
  rcases framesOf_cases read with ⟨frame, rfl⟩ | ⟨content, -, rfl⟩
  · exact List.cons_ne_nil _ _
  · exact List.cons_ne_nil _ _

end Send

/-! ## Messages -/

namespace Directory

variable {directory : Directory} {channel : String} {message : Message}

/-- What delivering a message comes to: the report, what is logged, and the directory behind it. -/
inductive Delivers (directory : Directory) (channel : String) (message : Message) :
    Delivery × Option LogEntry × Directory → Prop
  | malformed {error : ChannelError} (unread : Send.framesOf message = .error error) :
      Delivers directory channel message
        (.dropped, some (.warning ("Dropping malformed outbound message: " ++ error.message)),
          directory)
  | gone {frames : List Frame} (read : Send.framesOf message = .ok frames)
      (astray : ∀ number outbox, ¬directory.Leads channel number outbox) :
      Delivers directory channel message (.connectionGone, none, directory)
  | whole {frames : List Frame} {number : Nat} {outbox : Outbox}
      (read : Send.framesOf message = .ok frames) (leads : directory.Leads channel number outbox)
      (room : outbox.frames.length + frames.length ≤ directory.depth) :
      Delivers directory channel message (.delivered, none, directory.enqueue number frames)
  | refused {frames : List Frame} {number : Nat} {outbox : Outbox}
      (read : Send.framesOf message = .ok frames) (leads : directory.Leads channel number outbox)
      (full : directory.depth ≤ outbox.frames.length) :
      Delivers directory channel message
        (.dropped, some (.warning ("Dropping outbound message: Send queue full for " ++ channel)),
          directory)
  | halved {content : Frame} {number : Nat} {outbox : Outbox}
      (read : Send.framesOf message = .ok [content, .close none])
      (leads : directory.Leads channel number outbox)
      (last : outbox.frames.length + 1 = directory.depth) :
      Delivers directory channel message
        (.dropped, some (.warning ("Dropping outbound message: Send queue full for " ++ channel)),
          directory.enqueue number [content])

theorem deliver_of_room {frames : List Frame} {number : Nat} {outbox : Outbox}
    (read : Send.framesOf message = .ok frames) (leads : directory.Leads channel number outbox)
    (room : outbox.frames.length + frames.length ≤ directory.depth) :
    directory.deliver channel message = (.delivered, none, directory.enqueue number frames) := by
  rw [deliver, read]
  dsimp only
  rw [dispatchAll_of_room leads room]

theorem delivers (directory : Directory) (channel : String) (message : Message) :
    Delivers directory channel message (directory.deliver channel message) := by
  rw [deliver]
  cases read : Send.framesOf message with
  | error error => exact .malformed read
  | ok frames =>
      have nonempty := Send.framesOf_ne_nil read
      dsimp only
      rcases directory.astray_or_leads channel with astray | ⟨number, outbox, leads⟩
      · rw [dispatchAll_of_astray astray nonempty]
        exact .gone read astray
      · by_cases room : outbox.frames.length + frames.length ≤ directory.depth
        · rw [dispatchAll_of_room leads room]
          exact .whole read leads room
        · rw [dispatchAll_of_full leads nonempty (by omega)]
          by_cases full : directory.depth ≤ outbox.frames.length
          · have none : directory.depth - outbox.frames.length = 0 := by omega
            rw [none, List.take_zero, enqueue_nil]
            exact .refused read leads full
          · -- some frames but not all of them find room, so there are two of them
            rcases Send.framesOf_cases read with ⟨frame, rfl⟩ | ⟨content, -, rfl⟩
            · rw [List.length_singleton] at room
              omega
            · simp only [List.length_cons, List.length_nil] at room
              have one : directory.depth - outbox.frames.length = 1 := by omega
              rw [one]
              exact .halved read leads (by omega)

/-- A message is queued as a whole and counts as delivered, or nothing of it is queued and it counts
as dropped or its connection as gone. -/
def AllOrNothing (directory : Directory) (channel : String) (message : Message) : Prop :=
  let (delivery, _, after) := directory.deliver channel message
  (delivery = .delivered ∧ ∃ frames number outbox, Send.framesOf message = .ok frames ∧
    directory.Leads channel number outbox ∧ after = directory.enqueue number frames) ∨
    (delivery ≠ .delivered ∧ after = directory)

/-- A message has content and closes its socket, and the queue has room for just one frame. -/
structure Halves (directory : Directory) (channel : String) (message : Message) (content : Frame)
    (number : Nat) : Prop where
  read : Send.framesOf message = .ok [content, .close none]
  last : ∃ outbox, directory.Leads channel number outbox ∧
    outbox.frames.length + 1 = directory.depth

theorem Halves.deliver {content : Frame} {number : Nat}
    (halves : directory.Halves channel message content number) :
    directory.deliver channel message =
      (.dropped, some (.warning ("Dropping outbound message: Send queue full for " ++ channel)),
        directory.enqueue number [content]) := by
  rcases halves with ⟨read, outbox, leads, last⟩
  have one : directory.depth - outbox.frames.length = 1 := by omega
  have dispatched := dispatchAll_of_full leads (List.cons_ne_nil content [.close none])
    (by rw [List.length_cons, List.length_singleton]; omega)
  rw [Directory.deliver, read]
  dsimp only
  rw [dispatched, one]
  rfl

theorem Halves.not_allOrNothing {content : Frame} {number : Nat}
    (halves : directory.Halves channel message content number) :
    ¬directory.AllOrNothing channel message := by
  rw [AllOrNothing, halves.deliver]
  rcases halves.last with ⟨outbox, leads, -⟩
  rintro (⟨delivered, -⟩ | ⟨-, same⟩)
  · cases delivered
  · exact leads.enqueue_ne same

theorem allOrNothing_of_not_halves
    (whole : ∀ content number, ¬directory.Halves channel message content number) :
    directory.AllOrNothing channel message := by
  have delivered := directory.delivers channel message
  rw [AllOrNothing]
  generalize directory.deliver channel message = outcome at delivered ⊢
  cases delivered with
  | malformed _ | gone _ _ | refused _ _ _ => exact Or.inr ⟨nofun, rfl⟩
  | whole read leads room => exact Or.inl ⟨rfl, _, _, _, read, leads, rfl⟩
  | halved read leads last => exact absurd ⟨read, _, leads, last⟩ (whole _ _)

/-- Delivering to one channel leaves the other channels and their queues alone. -/
theorem deliver_elsewhere (directory : Directory) (channel : String) (message : Message) :
    (directory.deliver channel message).2.2.owners = directory.owners ∧
      ∀ number, directory.owners.find? channel ≠ some number →
        (directory.deliver channel message).2.2.outboxes[number]? =
          directory.outboxes[number]? := by
  have delivered := directory.delivers channel message
  generalize directory.deliver channel message = outcome at delivered ⊢
  cases delivered with
  | malformed _ | gone _ _ | refused _ _ _ => exact ⟨rfl, fun _ _ => rfl⟩
  | whole _ leads _ | halved _ leads _ =>
      refine ⟨rfl, ?_⟩
      intro number elsewhere
      apply getElem?_enqueue_of_ne
      rintro rfl
      exact elsewhere leads.registered

/-- Delivering a message is all or nothing unless there is room for one of its two frames only; then
its content is queued and its close frame is not, although the message counts as dropped. Other
queues stay as they are. -/
theorem deliver_all_or_nothing_iff (directory : Directory) (channel : String)
    (message : Message) :
    (directory.AllOrNothing channel message ↔
      ∀ content number, ¬directory.Halves channel message content number) ∧
    (∀ content number, directory.Halves channel message content number →
      directory.deliver channel message =
        (.dropped, some (.warning ("Dropping outbound message: Send queue full for " ++ channel)),
          directory.enqueue number [content])) ∧
    (directory.deliver channel message).2.2.owners = directory.owners ∧
    ∀ number, directory.owners.find? channel ≠ some number →
      (directory.deliver channel message).2.2.outboxes[number]? =
        directory.outboxes[number]? := by
  refine ⟨⟨?_, allOrNothing_of_not_halves⟩, fun _ _ halves => halves.deliver,
    directory.deliver_elsewhere channel message⟩
  intro whole content number halves
  exact halves.not_allOrNothing whole

/-- A farewell to a socket whose queue holds one frame: the text is queued, the close frame is lost,
and the message counts as dropped. -/
theorem deliver_farewell_halved :
    let directory := ((ofDepth 1).register "websocket.send!a").2
    let farewell : Message := ⟨[("content", .text "bye"), ("close", .bool true)]⟩
    let (delivery, _, after) := directory.deliver "websocket.send!a" farewell
    Send.framesOf farewell = .ok [.text "bye", .close none] ∧ delivery = .dropped ∧
      after.outboxes = [⟨[.text "bye"], true⟩] ∧
      ¬directory.AllOrNothing "websocket.send!a" farewell := by
  have halves : Halves ((ofDepth 1).register "websocket.send!a").2 "websocket.send!a"
      ⟨[("content", .text "bye"), ("close", .bool true)]⟩ (.text "bye") 0 :=
    ⟨rfl, {}, ⟨rfl, rfl, rfl⟩, rfl⟩
  exact ⟨rfl, rfl, rfl, halves.not_allOrNothing⟩

end Directory

end Courier.Socket
