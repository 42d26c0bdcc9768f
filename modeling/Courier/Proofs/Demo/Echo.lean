import Courier.Demo.Consumers
import Courier.Proofs.Socket.Dispatching
import Courier.Proofs.Socket.Payload

/-!
# Frames are echoed

A frame of data takes a long way: its content becomes a payload, the payload a message, the message
a text and a message again; the echo makes a payload of its own for the answer, and this is taken
apart into frames for the queue of the socket. What comes to the queue is the frame that went out:
binary data is put into base64 and taken out of it twice, and an empty text is not mistaken for a
payload that only closes.
-/

namespace Courier

namespace Socket

/-- The bytes that a frame carries: those of its text, or its data. -/
def Frame.bytes : Frame → List UInt8
  | .text content => Utf8.encode content
  | .binary data | .ping data | .pong data => data
  | .close _ => []

namespace Receive

variable {sendChannel : String} {frame : Frame} {payload : Receive}

theorem ofFrame?_eq_none_iff : ofFrame? sendChannel frame = none ↔ frame.isControl = true := by
  cases frame with
  | text | binary => exact iff_of_false nofun nofun
  | ping | pong | close => exact iff_of_true rfl rfl

theorem Carries.bytes (carries : payload.Carries frame) : payload.bytes = .ok frame.bytes := by
  cases frame with
  | text | binary => exact carries.2
  | ping | pong | close => exact carries.elim

theorem Carries.text?_eq_some_iff (carries : payload.Carries frame) {content : String} :
    payload.text? = some content ↔ frame = .text content := by
  cases frame with
  | text held =>
      rw [carries.1]
      exact ⟨fun same => congrArg Frame.text (Option.some.inj same),
        fun same => congrArg some (Frame.text.inj same)⟩
  | binary data =>
      rw [carries.1]
      exact iff_of_false nofun nofun
  | ping | pong | close => exact carries.elim

theorem ofText_text (payload : Receive) :
    Message.ofText payload.toMessage.text = .ok payload.toMessage :=
  Message.ofText_text_of_plain (payload.plain_toJson.mono (by decide))

end Receive

namespace Send

theorem framesOf_ofText (content : String) :
    framesOf (ofText content).toMessage = .ok [.text content] := by
  rw [framesOf, ofMessage_toMessage]
  simp [frames, ofText]

theorem framesOf_ofBytes (data : List UInt8) :
    framesOf (ofBytes data).toMessage = .ok [.binary data] := by
  rw [framesOf, ofMessage_toMessage]
  simp [frames, ofBytes, contentBytes, Base64.utf8_encode, Base64.decodeBytes_encodeBytes]

end Send

end Socket

namespace Demo

open Socket

/-- The answer of the echo to a payload stands for the very frame that the payload carries. -/
theorem exists_echoOf {payload : Receive} {frame : Frame} (carries : payload.Carries frame) :
    ∃ reply, echoOf payload = .ok reply ∧ Send.framesOf reply.toMessage = .ok [frame] := by
  cases frame with
  | text content =>
      refine ⟨.ofText content, ?_, Send.framesOf_ofText content⟩
      rw [echoOf, carries.1]
  | binary data =>
      refine ⟨.ofBytes data, ?_, Send.framesOf_ofBytes data⟩
      rw [echoOf, carries.1, carries.2]
      rfl
  | ping | pong | close => exact carries.elim

/-- All that the echo does with the message of a payload is to send its answer. -/
theorem consume_echo {payload : Receive} {reply : Send} (answered : echoOf payload = .ok reply)
    (context : Context) :
    echo.consume payload.toMessage context =
      .perform (.send payload.sendChannel reply.toMessage) fun result =>
        .done (Outcome.ofResult result) := by
  simp only [echo, Receive.ofMessage_toMessage, answered]
  rfl

/-! ## Main result -/

/-- A frame goes through the echo: its payload has its content and is read back from a text, the
echo does nothing with this payload but send one answer to the socket from which the frame came, and
delivering the answer adds just this frame to the queue of the socket. -/
structure Echoes (directory : Directory) (channel : String) (number : Nat) (frame : Frame)
    (payload : Receive) (reply : Send) : Prop where
  bytes : payload.bytes = .ok frame.bytes
  text_iff : ∀ content, payload.text? = some content ↔ frame = .text content
  travels : Message.ofText payload.toMessage.text = .ok payload.toMessage
  answered : ∀ context, echo.consume payload.toMessage context =
    .perform (.send channel reply.toMessage) fun result => .done (Outcome.ofResult result)
  delivered : directory.deliver channel reply.toMessage =
    (.delivered, none, directory.enqueue number [frame])

/-- Every frame of data comes back to a live socket with room in its queue, whatever it holds;
control frames give no message. -/
theorem frames_survive_echo {directory : Directory} {channel : String} {number : Nat}
    {outbox : Outbox} (leads : directory.Leads channel number outbox)
    (room : outbox.frames.length < directory.depth) (frame : Frame) :
    (frame.isControl = true → Receive.ofFrame? channel frame = none) ∧
    (frame.isControl = false → ∃ payload reply, Receive.ofFrame? channel frame = some payload ∧
      Echoes directory channel number frame payload reply) := by
  refine ⟨Receive.ofFrame?_eq_none_iff.mpr, ?_⟩
  intro isData
  cases made : Receive.ofFrame? channel frame with
  | none =>
      rw [Receive.ofFrame?_eq_none_iff.mp made] at isData
      cases isData
  | some payload =>
      have carries := Receive.carries_of_ofFrame? made
      have back := Receive.sendChannel_of_ofFrame? made
      rcases exists_echoOf carries with ⟨reply, answered, read⟩
      refine ⟨payload, reply, rfl, ?_⟩
      constructor
      · exact carries.bytes
      · exact fun _ => carries.text?_eq_some_iff
      · exact payload.ofText_text
      · intro context
        rw [consume_echo answered, back]
      · exact Directory.deliver_of_room read leads room

/-- An empty text takes the last place in the queue of a socket. -/
theorem frames_survive_echo_blank :
    let directory := (((Directory.ofDepth 2).register "websocket.send!a").2.dispatch
      "websocket.send!a" (.text "before")).2
    directory.Leads "websocket.send!a" 0 ⟨[.text "before"], true⟩ ∧
      ∃ payload reply, Receive.ofFrame? "websocket.send!a" (.text "") = some payload ∧
        Echoes directory "websocket.send!a" 0 (.text "") payload reply := by
  intro directory
  have leads : directory.Leads "websocket.send!a" 0 ⟨[.text "before"], true⟩ := ⟨rfl, rfl, rfl⟩
  exact ⟨leads, (frames_survive_echo leads (by decide) (.text "")).2 rfl⟩

end Demo

end Courier
