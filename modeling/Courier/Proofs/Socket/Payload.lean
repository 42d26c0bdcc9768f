import Courier.Proofs.Json.Plain
import Courier.Proofs.Payload.Reader
import Courier.Socket.Payload

/-!
# Reading back socket payloads

What is announced about a socket and what is to be sent to it is read back from messages, whatever
the texts are; and a frame of data comes back from the payload that is made for it, binary data out
of its base64. All these messages are flat.
-/

namespace Courier.Socket

namespace Connect

theorem ofMessage_toMessage (payload : Connect) : ofMessage payload.toMessage = .ok payload := by
  rcases payload with ⟨sendChannel, path, queryString, client⟩
  -- An empty query and an unknown client are not written, and are what is read where they lack.
  by_cases blank : queryString = ""
  · subst blank
    cases client <;> rfl
  · cases client <;> simp only [toMessage, if_neg blank] <;> rfl

theorem plain_toJson (payload : Connect) : Json.Plain 1 payload.toMessage.toJson := by
  rcases payload with ⟨sendChannel, path, queryString, client⟩
  by_cases blank : queryString = ""
  · subst blank
    cases client <;> exact ⟨rfl, rfl, Nat.le_refl 1⟩
  · cases client <;> simp only [toMessage, if_neg blank] <;> exact ⟨rfl, rfl, Nat.le_refl 1⟩

theorem has_queryString (payload : Connect) :
    payload.toMessage.has "query_string" = (payload.queryString != "") := by
  rcases payload with ⟨sendChannel, path, queryString, client⟩
  by_cases blank : queryString = ""
  · subst blank
    cases client <;> rfl
  · have written : (queryString != "") = true := by simpa using blank
    simp only [toMessage, if_neg blank, written]
    rfl

theorem has_client (payload : Connect) :
    payload.toMessage.has "client" = payload.client.isSome := by
  rcases payload with ⟨sendChannel, path, queryString, client⟩
  by_cases blank : queryString = ""
  · subst blank
    cases client <;> rfl
  · cases client <;> simp only [toMessage, if_neg blank] <;> rfl

end Connect

namespace Receive

theorem ofMessage_toMessage (payload : Receive) : ofMessage payload.toMessage = .ok payload := rfl

theorem plain_toJson (payload : Receive) : Json.Plain 1 payload.toMessage.toJson :=
  ⟨rfl, rfl, Nat.le_refl 1⟩

/-- A payload has the content of a frame. -/
def Carries (payload : Receive) : Frame → Prop
  | .text content => payload.text? = some content ∧ payload.bytes = .ok (Utf8.encode content)
  | .binary data => payload.text? = none ∧ payload.bytes = .ok data
  | _ => False

theorem carries_of_ofFrame? {sendChannel : String} {frame : Frame} {payload : Receive}
    (made : ofFrame? sendChannel frame = some payload) : payload.Carries frame := by
  cases frame with
  | text content =>
      cases made
      exact ⟨rfl, rfl⟩
  | binary data =>
      cases made
      refine ⟨rfl, ?_⟩
      simp [bytes, contentBytes, Base64.utf8_encode, Base64.decodeBytes_encodeBytes]
  | ping | pong | close => cases made

theorem sendChannel_of_ofFrame? {sendChannel : String} {frame : Frame} {payload : Receive}
    (made : ofFrame? sendChannel frame = some payload) : payload.sendChannel = sendChannel := by
  cases frame with
  | text | binary =>
      cases made
      rfl
  | ping | pong | close => cases made

end Receive

namespace Disconnect

theorem ofMessage_toMessage (payload : Disconnect) : ofMessage payload.toMessage = .ok payload :=
  rfl

theorem plain_toJson (payload : Disconnect) : Json.Plain 1 payload.toMessage.toJson :=
  ⟨rfl, rfl, Nat.le_refl 1⟩

end Disconnect

namespace Send

theorem ofMessage_toMessage (payload : Send) : ofMessage payload.toMessage = .ok payload := by
  rcases payload with ⟨content, binary, close⟩
  cases close <;> rfl

theorem plain_toJson (payload : Send) : Json.Plain 1 payload.toMessage.toJson := by
  rcases payload with ⟨content, binary, close⟩
  cases close <;> exact ⟨rfl, rfl, Nat.le_refl 1⟩

theorem has_close (payload : Send) : payload.toMessage.has "close" = payload.close := by
  rcases payload with ⟨content, binary, close⟩
  cases close <;> rfl

end Send

end Courier.Socket
