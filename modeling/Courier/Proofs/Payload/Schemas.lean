import Courier.Proofs.Http.RequestPayload
import Courier.Proofs.Http.ResponseMessage
import Courier.Proofs.Socket.Payload

/-!
# Payloads on the wire

Whatever a payload holds, it comes back from its message, also if that message has crossed over to
another process as a text. Some fields are left out where they would hold what their absence stands
for, and nothing else is left out.
-/

namespace Courier.Payload

/-- A value makes up a message and is read back from it, and from the message of its text. -/
structure Travels {α : Type} (write : α → Message) (read : Message → Except DecodeError α)
    (value : α) : Prop where
  written : Message.ofPayload (write value).toJson = .ok (write value)
  readBack : read (write value) = .ok value
  readAcross : ∃ message, Message.ofText (write value).text = .ok message ∧
    read message = .ok value

theorem travels_of_plain {α : Type} {write : α → Message} {read : Message → Except DecodeError α}
    {value : α} {bound : Nat} (plain : Json.Plain bound (write value).toJson)
    (shallow : bound ≤ Json.depthLimit) (back : read (write value) = .ok value) :
    Travels write read value := by
  refine ⟨rfl, back, write value, ?_, back⟩
  exact Message.ofText_text_of_plain (plain.mono shallow)

theorem request_travels (payload : Http.RequestPayload) :
    Travels Http.RequestPayload.toMessage Http.RequestPayload.ofMessage payload :=
  travels_of_plain payload.plain_toJson (by decide) payload.ofMessage_toMessage

/-- The payloads of every kind travel: requests, the heads and parts of responses, and all that is
said about sockets. The fields that may be left out are left out exactly for an empty body, an empty
query, an unknown client and no wish to close. -/
theorem schemas_travel :
    (∀ payload : Http.RequestPayload,
      Travels Http.RequestPayload.toMessage Http.RequestPayload.ofMessage payload ∧
        payload.toMessage.has "body" = !payload.body.isEmpty) ∧
    (∀ message : Http.ResponseMessage, message.Fits →
      Travels Http.ResponseMessage.toMessage Http.ResponseMessage.ofMessage message) ∧
    (∀ payload : Socket.Connect,
      Travels Socket.Connect.toMessage Socket.Connect.ofMessage payload ∧
        payload.toMessage.has "query_string" = (payload.queryString != "") ∧
        payload.toMessage.has "client" = payload.client.isSome) ∧
    (∀ payload : Socket.Receive,
      Travels Socket.Receive.toMessage Socket.Receive.ofMessage payload) ∧
    (∀ payload : Socket.Disconnect,
      Travels Socket.Disconnect.toMessage Socket.Disconnect.ofMessage payload) ∧
    ∀ payload : Socket.Send,
      Travels Socket.Send.toMessage Socket.Send.ofMessage payload ∧
        payload.toMessage.has "close" = payload.close := by
  refine ⟨?_, ?_, ?_, ?_, ?_, ?_⟩
  · exact fun payload => ⟨request_travels payload, payload.has_body⟩
  · intro message fits
    exact travels_of_plain (Http.ResponseMessage.plain_toJson fits) (by decide)
      (Http.ResponseMessage.ofMessage_toMessage fits)
  · intro payload
    refine ⟨?_, payload.has_queryString, payload.has_client⟩
    exact travels_of_plain payload.plain_toJson (by decide) payload.ofMessage_toMessage
  · intro payload
    exact travels_of_plain payload.plain_toJson (by decide) payload.ofMessage_toMessage
  · intro payload
    exact travels_of_plain payload.plain_toJson (by decide) payload.ofMessage_toMessage
  · intro payload
    refine ⟨?_, payload.has_close⟩
    exact travels_of_plain payload.plain_toJson (by decide) payload.ofMessage_toMessage

theorem schemas_travel_greatest_status :
    (65535 : Nat) < 65536 ∧
      Travels Http.ResponseMessage.toMessage Http.ResponseMessage.ofMessage
        (.start ⟨65535, [("Set-Cookie", "a=\"é\u2603\"\n"), ("", "")]⟩) :=
  ⟨by decide, schemas_travel.2.1 (.start ⟨65535, [("Set-Cookie", "a=\"é\u2603\"\n"), ("", "")]⟩)
    (show (65535 : Nat) < 65536 by decide)⟩

end Courier.Payload
