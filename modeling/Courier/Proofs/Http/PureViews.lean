import Courier.Proofs.Http.Answering
import Courier.Proofs.Payload.Reader

/-!
# Views that are functions

A view that is a function of the request sends nothing itself, so the consumer around it sends to
the reply channel of the request only. This channel is named in the message, and it is read from the
message as it was written into it: whoever handles the message of a payload sends to the channel of
this payload.
-/

namespace Courier.Http

/-! ## The reply channel of a request -/

theorem text?_of_required {message : Message} {name value : String}
    (read : Payload.required message.fields name .text = .ok value) :
    message.text? name = some value := by
  rw [Payload.required] at read
  rw [Message.text?, Message.get?]
  split at read
  · cases read
  · rename_i json found
    rw [found]
    cases json with
    | text other =>
        cases read
        rfl
    | _ => cases read

namespace RequestPayload

/-- The channel on which a message asks to be answered. -/
def replyChannel? (message : Message) : Option String := message.text? "reply_channel"

@[simp]
theorem replyChannel?_toMessage (payload : RequestPayload) :
    replyChannel? payload.toMessage = some payload.replyChannel := rfl

/-- What is read from a message is answered where the message asks for it. -/
theorem replyChannel?_of_ofMessage {message : Message} {request : RequestPayload}
    (readable : ofMessage message = .ok request) :
    replyChannel? message = some request.replyChannel := by
  -- eight steps of the reading come in front of the reply channel
  iterate 8 rcases eq_ok_of_bind readable with ⟨_, -, readable⟩
  rcases eq_ok_of_bind readable with ⟨channel, found, readable⟩
  rcases eq_ok_of_bind readable with ⟨_, -, readable⟩
  cases readable
  exact text?_of_required found

end RequestPayload

/-! ## What the consumer sends -/

theorem within_sendResponse (settings : HttpSettings) (channel : String) (response : Response) :
    (sendResponse settings channel response).Within fun target _ => target = channel := by
  apply Program.Within.bind
  · apply (within_sendRetrying settings channel _ 0 settings.sendRetries).mono
    rintro target sent ⟨same, -⟩
    exact same
  · intro result
    cases result with
    | error error => exact Program.Within.done _
    | ok done =>
        apply (within_sendRest settings channel fun _ mem => isChunk_of_mem_tail mem).mono
        rintro target sent ⟨same, -⟩
        exact same

namespace View

/-- A view that is a function of the request. -/
def ofFunction (answer : RequestPayload → Context → ViewResult) : View :=
  fun request context => .done (answer request context)

theorem within_answer (settings : HttpSettings) (channel : String) (response : Response) :
    (View.answer settings channel response).Within fun target _ => target = channel := by
  have fallback : ((sendResponse settings channel .failure).bind fun result =>
      Program.done (View.outcomeOf result)).Within fun target _ => target = channel :=
    (within_sendResponse settings channel .failure).bind fun _ => Program.Within.done _
  apply (within_sendResponse settings channel response).bind
  intro result
  match result with
  | .ok () => exact Program.Within.done _
  | .error (.responseInterrupted _ _) => exact ⟨trivial, fun _ => Program.Within.done _⟩
  | .error (.channel _) | .error (.responseTimeout _) | .error (.badRequest _)
  | .error (.requestTooLarge _) | .error (.invalidResponse _) | .error (.server _) =>
      exact ⟨trivial, fun _ => fallback⟩

/-- The consumer around a function sends to the channel on which it is asked to answer only. -/
theorem within_consume (settings : HttpSettings) (answer : RequestPayload → Context → ViewResult)
    (message : Message) (context : Context) :
    (View.consume settings (.ofFunction answer) message context).Within fun target _ =>
      RequestPayload.replyChannel? message = some target := by
  rw [View.consume]
  split
  · exact Program.Within.done _
  · rename_i request readable
    have answering : ∀ response : Response,
        (View.answer settings request.replyChannel response).Within fun target _ =>
          RequestPayload.replyChannel? message = some target := by
      intro response
      apply (within_answer settings request.replyChannel response).mono
      rintro target _ rfl
      exact RequestPayload.replyChannel?_of_ofMessage readable
    change Program.Within _ (Program.bind (.done (answer request context)) _)
    rw [Program.bind]
    cases answer request context with
    | immediate response => exact answering response
    | deferred channel => exact Program.Within.done _
    | brokeDown reason => exact Program.Within.done _
    | failed error => exact ⟨trivial, fun _ => answering .failure⟩

theorem accepted_eq_nil_of_ne {settings : HttpSettings}
    {answer : RequestPayload → Context → ViewResult} {message : Message} {context : Context}
    {trace : Trace} {after : Program Outcome}
    (run : Program.Run (View.consume settings (.ofFunction answer) message context) trace after)
    {channel : String} (elsewhere : RequestPayload.replyChannel? message ≠ some channel) :
    trace.accepted channel = [] := by
  apply Trace.accepted_eq_nil
  rintro attempt mem rfl
  exact elsewhere ((within_consume settings answer message context).allowed_of_run run attempt mem)

end View

end Courier.Http
