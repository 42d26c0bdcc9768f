import Courier.Proofs.Site
import Courier.Proofs.Socket.Dispatching
import Courier.Proofs.Store.Operations
import Courier.Socket.Reader

/-!
# A step of a reader, up to the delivery

A reader that finds a message delivers it at once, frame by frame, and others may act in between. So
a step is taken apart here: first the reader looks, and with what it brings it comes to its next
state; then the message is delivered. Looking takes the message that is brought from the queue of
its channel and leaves the directory alone.
-/

namespace Courier

namespace Receipt

/-- The message that a receipt brings, with the channel from which it comes. -/
def brought? : Receipt → Option (String × Message)
  | .received source message => some (source, message)
  | .nothing | .waiting _ => none

theorem from?_eq_brought? (receipt : Receipt) (channel : String) :
    receipt.from? channel = receipt.brought?.bind fun brought =>
      if brought.1 = channel then some brought.2 else none := by
  cases receipt with
  | received source message => rfl
  | nothing => rfl
  | waiting waiting => rfl

end Receipt

namespace Socket

namespace Reader

/-- The state of a reader behind a receipt. -/
def behind (heard : Nat) : Receipt → ReaderState
  | .received _ _ | .nothing => .ready
  | .waiting waiting => .receiving heard waiting

/-- Moves a reader on up to a delivery: what it brings, its next state, and the hub. -/
def look (reader : Reader) (hub : Hub) (now : Instant) :
    Option (String × Message) × ReaderState × Hub :=
  match reader.state with
  | .ready => (none, .listening hub.directory.registrations, hub)
  | .listening heard => (none, .informed heard hub.directory.channels, hub)
  | .informed heard channels =>
      if channels.isEmpty then (none, .idle heard (now + reader.settings.idleInterval), hub)
      else
        match hub.receive now channels with
        | (.ok receipt, hub) => (receipt.brought?, behind heard receipt, hub)
        | (.error error, hub) =>
            (none, .pausing (now + reader.settings.errorBackoff),
              hub.report? (some (.warning ("Reply channel receive failed: " ++ error.message))))
  | .idle _ wakeAt => (none, if wakeAt ≤ now then .ready else reader.state, hub)
  | .receiving heard waiting =>
      let (receipt, hub) := hub.resume now waiting
      (receipt.brought?, behind heard receipt, hub)
  | .pausing wakeAt => (none, if wakeAt ≤ now then .ready else reader.state, hub)
  | .stopped => (none, .stopped, hub)

/-- Delivers what a reader has brought. -/
def deliver (brought : Option (String × Message)) (hub : Hub) : Hub :=
  match brought with
  | none => hub
  | some (channel, message) => (hub.deliver channel message).2

theorem accept_eq (hub : Hub) (heard : Nat) (receipt : Receipt) :
    accept hub heard receipt = (behind heard receipt, deliver receipt.brought? hub) := by
  cases receipt with
  | received source message => rfl
  | nothing => rfl
  | waiting waiting => rfl

/-- To proceed is to look and then to deliver what was brought. -/
theorem proceed_eq (reader : Reader) (hub : Hub) (now : Instant) :
    reader.proceed hub now =
      ((reader.look hub now).2.1, deliver (reader.look hub now).1 (reader.look hub now).2.2) := by
  rcases reader with ⟨settings, state⟩
  cases state with
  | ready | listening heard | idle heard wakeAt | pausing wakeAt | stopped => rfl
  | receiving heard waiting => exact accept_eq _ heard _
  | informed heard channels =>
      simp only [proceed, look, beginWait]
      split
      · rfl
      · rcases hub.receive now channels with ⟨_ | receipt, after⟩
        · rfl
        · exact accept_eq after heard receipt

/-! ## Looking -/

/-- What looking does to a hub. -/
structure Looks (now : Instant) (hub : Hub) (brought : Option (String × Message)) (after : Hub) :
    Prop where
  directory : after.directory = hub.directory
  settings : after.site.backend.store.settings = hub.site.backend.store.settings
  queue : ∀ channel, QueueStep now (hub.site.backend.store.queue channel) none
    (brought.bind fun brought => if brought.1 = channel then some brought.2 else none)
    (after.site.backend.store.queue channel)

theorem looks_refl (now : Instant) (hub : Hub) : Looks now hub none hub :=
  ⟨rfl, rfl, fun _ => .refl now _⟩

theorem looks_resume (now : Instant) (hub : Hub) (waiting : Waiting) :
    Looks now hub (hub.resume now waiting).1.brought? (hub.resume now waiting).2 := by
  refine ⟨rfl, Store.settings_resume _ now waiting, ?_⟩
  intro channel
  rw [← Receipt.from?_eq_brought?]
  exact Store.queueStep_resume hub.site.backend.store now channel waiting

theorem looks_receive (now : Instant) (hub : Hub) (channels : List String) :
    (∃ receipt, (hub.receive now channels).1 = .ok receipt ∧
        Looks now hub receipt.brought? (hub.receive now channels).2) ∨
      ∃ error, (hub.receive now channels).1 = .error error ∧
        Looks now hub none (hub.receive now channels).2 := by
  rw [Hub.receive]
  rcases Backend.receive_reaches_or_fails hub.site.backend now channels true with
    reaches | ⟨error, fails⟩
  · rw [reaches]
    refine Or.inl ⟨_, rfl, rfl, Store.settings_receive _ now channels true, ?_⟩
    intro channel
    rw [← Receipt.from?_eq_brought?]
    exact Store.queueStep_receive hub.site.backend.store now channel channels true
  · rw [fails]
    exact Or.inr ⟨error, rfl, rfl, rfl, fun _ => .refl now _⟩

theorem Looks.report {now : Instant} {hub after : Hub} {brought : Option (String × Message)}
    (looks : Looks now hub brought after) (entry : LogEntry) :
    Looks now hub brought (after.report? (some entry)) :=
  ⟨looks.directory, looks.settings, looks.queue⟩

theorem looks_look (reader : Reader) (hub : Hub) (now : Instant) :
    Looks now hub (reader.look hub now).1 (reader.look hub now).2.2 := by
  rcases reader with ⟨settings, state⟩
  cases state with
  | ready | listening heard | idle heard wakeAt | pausing wakeAt | stopped =>
      exact looks_refl now hub
  | receiving heard waiting => exact looks_resume now hub waiting
  | informed heard channels =>
      have looks := looks_receive now hub channels
      simp only [look]
      split
      · exact looks_refl now hub
      · generalize hub.receive now channels = result at looks ⊢
        rcases result with ⟨_ | receipt, after⟩
        · rcases looks with ⟨_, impossible, -⟩ | ⟨error, -, looks⟩
          · cases impossible
          · exact looks.report _
        · rcases looks with ⟨_, same, looks⟩ | ⟨_, impossible, -⟩
          · cases same
            exact looks
          · cases impossible

end Reader

/-! ## Delivering -/

namespace Directory

/-- A frame is added to the queue of the channel, or it is refused and nothing changes. -/
theorem dispatch_spec (directory : Directory) (channel : String) (frame : Frame) :
    (∃ number outbox, directory.owners.find? channel = some number ∧
        directory.outboxes[number]? = some outbox ∧ outbox.attached = true ∧
        directory.dispatch channel frame =
          (.ok (), { directory with
            outboxes := directory.outboxes.set number
              { outbox with frames := outbox.frames ++ [frame] } })) ∨
      ∃ error, directory.dispatch channel frame = (.error error, directory) := by
  rcases directory.astray_or_leads channel with astray | ⟨number, outbox, leads⟩
  · exact Or.inr ⟨_, dispatch_of_astray astray frame⟩
  · by_cases room : outbox.frames.length < directory.depth
    · have accepted := dispatch_of_room leads room frame
      rw [enqueue_eq_set leads.opened] at accepted
      exact Or.inl ⟨number, outbox, leads.registered, leads.opened, leads.attached, accepted⟩
    · exact Or.inr ⟨_, dispatch_of_full leads (Nat.not_lt.mp room) frame⟩

/-- The oldest frame of a queue is taken, or there is none and nothing changes. -/
theorem receive_spec (directory : Directory) (number : Nat) :
    (∃ frame rest attached, directory.outboxes[number]? = some ⟨frame :: rest, attached⟩ ∧
        directory.receive number =
          (.frame frame,
            { directory with outboxes := directory.outboxes.set number ⟨rest, attached⟩ })) ∨
      ∃ retrieval, (∀ frame, retrieval ≠ .frame frame) ∧
        directory.receive number = (retrieval, directory) := by
  rw [receive]
  split
  case h_1 frame rest attached there => exact Or.inl ⟨frame, rest, attached, there, rfl⟩
  case h_2 =>
      refine Or.inr ⟨_, ?_, rfl⟩
      intro frame same
      split at same
      · cases same
      · cases same

end Directory

end Socket

end Courier
