import Courier.Http.Sending
import Courier.Proofs.Http.Framing
import Courier.Proofs.Program.Trace

/-!
# What sending a response leaves on its channel

A message is tried again and again, but accepted once at most: behind an attempt that succeeds there
is no other. From this the outcome of sending a response is read off. Either everything was accepted
in order, or nothing was, or an initial segment was, which an empty final chunk may close. Which one
it was is told by the result, whatever answers the attempts were given.

So what was accepted never has two starts, and never a chunk twice or out of order. Once it ends, it
is a response with an initial segment of the body.
-/

namespace Courier.Http

/-! ## One message -/

/-- A trace of attempts to send one message. -/
structure Tried (channel : String) (message : Message) (result : Except ChannelError Unit)
    (trace : Trace) : Prop where
  accepted : trace.accepted channel =
    match result with
    | .ok () => [message]
    | .error _ => []
  last : trace.attempts.getLast? = some ⟨channel, message, result⟩
  silent : trace.entries = []

theorem tried_once (channel : String) (message : Message) (result : Except ChannelError Unit) :
    Tried channel message result [⟨.send channel message, result⟩] := by
  refine ⟨?_, rfl, rfl⟩
  cases result with
  | ok done => exact (Trace.accepted_send_ok channel channel message).trans (if_pos rfl)
  | error error => exact Trace.accepted_send_error channel channel message error

theorem Tried.again {channel : String} {message : Message} {result : Except ChannelError Unit}
    {trace : Trace} (tried : Tried channel message result trace) (full : String)
    (duration : Duration) :
    Tried channel message result
      (⟨.send channel message, (.error (.channelFull full) : Except ChannelError Unit)⟩ ::
        ⟨.pause duration, ()⟩ :: trace) := by
  refine ⟨tried.accepted, ?_, tried.silent⟩
  change (_ :: trace.attempts).getLast? = _
  rw [List.getLast?_cons, tried.last]
  rfl

theorem tried_of_run {settings : HttpSettings} {channel : String} {message : Message}
    {attempt retries : Nat} {trace : Trace} {result : Except ChannelError Unit}
    (run : Program.Run (sendRetrying settings channel message attempt retries) trace
      (.done result)) : Tried channel message result trace := by
  induction retries generalizing attempt trace with
  | zero =>
      rcases run.perform_inv with ⟨answer, rest, rfl, ends⟩
      rcases ends.done_inv with ⟨rfl, rfl⟩
      exact tried_once channel message answer
  | succ retries ih =>
      rcases run.perform_inv with ⟨answer, rest, rfl, afterAttempt⟩
      change Except ChannelError Unit at answer
      match answer with
      | .error (.channelFull full) =>
          rcases afterAttempt.perform_inv with ⟨_, tail, rfl, afterPause⟩
          exact (ih afterPause).again full _
      | .ok _ | .error (.backendUnavailable _) | .error (.duplicateConsumer _)
      | .error (.malformedMessage _) | .error (.unknownBackend _) | .error (.configuration _)
      | .error (.serialization _) =>
          rcases afterAttempt.done_inv with ⟨rfl, rfl⟩
          exact tried_once channel message _

/-! ## The rest of a response -/

/-- The message that ends a body. -/
def closingMessage : Message := (ResponseMessage.chunk .last).toMessage

/-- A trace of attempts to end a body: either it is ended, or there is a warning. -/
def Closing (channel : String) (trace : Trace) : Prop :=
  (trace.accepted channel = [closingMessage] ∧ trace.entries = []) ∨
    (trace.accepted channel = [] ∧ ∃ warning, trace.entries = [warning] ∧
      warning.severity = .warning)

theorem closing_of_run {settings : HttpSettings} {channel : String} {source : ChannelError}
    {trace : Trace} {error : Error}
    (run : Program.Run (interrupt settings channel source) trace (.done error)) :
    error = .responseInterrupted channel source ∧ Closing channel trace := by
  rcases run.bind_inv with ⟨first, result, second, rfl, triedRun, afterwards⟩
  have tried := tried_of_run triedRun
  cases result with
  | ok done =>
      rcases afterwards.done_inv with ⟨rfl, rfl⟩
      refine ⟨rfl, Or.inl ⟨?_, ?_⟩⟩
      · rw [List.append_nil]
        exact tried.accepted
      · rw [List.append_nil]
        exact tried.silent
  | error refused =>
      rcases afterwards.perform_inv with ⟨_, tail, rfl, ends⟩
      rcases ends.done_inv with ⟨rfl, rfl⟩
      refine ⟨rfl, Or.inr ⟨?_, ?_⟩⟩
      · rw [Trace.accepted_append, tried.accepted]
        rfl
      · rw [Trace.entries_append, tried.silent]
        exact ⟨_, rfl, rfl⟩

/-- A trace that sends messages up to one that fails, and then tries to end the body. -/
structure BreaksOff (channel : String) (messages : List Message) (count : Nat)
    (source : ChannelError) (before after : Trace) : Prop where
  failed : ∃ message, messages[count]? = some message ∧
    before.attempts.getLast? = some ⟨channel, message, .error source⟩
  accepted : before.accepted channel = messages.take count
  silent : before.entries = []
  closing : Closing channel after

/-- Behind a message that was accepted the trace breaks off one message later. -/
theorem BreaksOff.behind {channel : String} {messages : List Message} {count : Nat}
    {source : ChannelError} {before after first : Trace} {message : Message}
    (breaksOff : BreaksOff channel messages count source before after)
    (tried : Tried channel message (.ok ()) first) :
    BreaksOff channel (message :: messages) (count + 1) source (first ++ before) after := by
  rcases breaksOff.failed with ⟨failing, found, last⟩
  refine ⟨⟨failing, found, ?_⟩, ?_, ?_, breaksOff.closing⟩
  · rw [Trace.attempts_append, List.getLast?_append, last]
    rfl
  · rw [Trace.accepted_append, tried.accepted, breaksOff.accepted]
    rfl
  · rw [Trace.entries_append, tried.silent, breaksOff.silent]
    rfl

/-- What sending messages behind a start comes to. -/
def RestOutcome (channel : String) (messages : List Message) (trace : Trace) :
    Except Error Unit → Prop
  | .ok () => trace.accepted channel = messages ∧ trace.entries = []
  | .error error => ∃ source count before after, error = .responseInterrupted channel source ∧
      trace = before ++ after ∧ BreaksOff channel messages count source before after

theorem RestOutcome.behind {channel : String} {messages : List Message} {trace first : Trace}
    {result : Except Error Unit} {message : Message}
    (outcome : RestOutcome channel messages trace result)
    (tried : Tried channel message (.ok ()) first) :
    RestOutcome channel (message :: messages) (first ++ trace) result := by
  cases result with
  | ok done =>
      rcases outcome with ⟨accepted, silent⟩
      refine ⟨?_, ?_⟩
      · rw [Trace.accepted_append, tried.accepted, accepted]
        rfl
      · rw [Trace.entries_append, tried.silent, silent]
        rfl
  | error error =>
      rcases outcome with ⟨source, count, before, after, rfl, rfl, breaksOff⟩
      exact ⟨source, count + 1, first ++ before, after, rfl, (List.append_assoc _ _ _).symm,
        breaksOff.behind tried⟩

theorem restOutcome_of_run {settings : HttpSettings} {channel : String} {messages : List Message}
    {trace : Trace} {result : Except Error Unit}
    (run : Program.Run (sendRest settings channel messages) trace (.done result)) :
    RestOutcome channel messages trace result := by
  induction messages generalizing trace with
  | nil =>
      rcases run.done_inv with ⟨rfl, rfl⟩
      exact ⟨rfl, rfl⟩
  | cons message rest ih =>
      rcases run.bind_inv with ⟨first, answer, second, rfl, triedRun, afterwards⟩
      have tried := tried_of_run triedRun
      cases answer with
      | ok done => exact (ih afterwards).behind tried
      | error source =>
          rcases afterwards.bind_inv with ⟨closing, error, last, rfl, closingRun, ends⟩
          rcases ends.done_inv with ⟨rfl, rfl⟩
          rcases closing_of_run closingRun with ⟨rfl, closed⟩
          rw [List.append_nil]
          exact ⟨source, 0, first, closing, rfl, rfl, ⟨message, rfl, tried.last⟩, tried.accepted,
            tried.silent, closed⟩

/-! ## Whole responses -/

/-- What sending messages, of which the first one is a start, comes to. -/
def SendOutcome (channel : String) (messages : List Message) (trace : Trace) :
    Except Error Unit → Prop
  | .ok () => trace.accepted channel = messages ∧ trace.entries = []
  | .error (.channel source) => trace.accepted channel = [] ∧ trace.entries = [] ∧
      ∃ first, messages.head? = some first ∧
        trace.attempts.getLast? = some ⟨channel, first, .error source⟩
  | .error (.responseInterrupted replyChannel source) => replyChannel = channel ∧
      ∃ count before after, 1 ≤ count ∧ trace = before ++ after ∧
        BreaksOff channel messages count source before after
  | .error _ => False

theorem sendOutcome_of_run {settings : HttpSettings} {channel : String} {messages : List Message}
    {trace : Trace} {result : Except Error Unit}
    (run : Program.Run (sendAll settings channel messages) trace (.done result)) :
    SendOutcome channel messages trace result := by
  cases messages with
  | nil =>
      rcases run.done_inv with ⟨rfl, rfl⟩
      exact ⟨rfl, rfl⟩
  | cons message rest =>
      rcases run.bind_inv with ⟨first, answer, second, rfl, triedRun, afterwards⟩
      have tried := tried_of_run triedRun
      cases answer with
      | ok done =>
          have outcome := restOutcome_of_run afterwards
          cases result with
          | ok done => exact outcome.behind tried
          | error error =>
              rcases outcome with ⟨source, count, before, after, rfl, rfl, breaksOff⟩
              exact ⟨rfl, count + 1, first ++ before, after, Nat.le_add_left 1 count,
                (List.append_assoc _ _ _).symm, breaksOff.behind tried⟩
      | error source =>
          rcases afterwards.done_inv with ⟨rfl, rfl⟩
          rw [List.append_nil]
          exact ⟨tried.accepted, tried.silent, message, rfl, tried.last⟩

/-! ## What a client finds -/

/-- What may be sent of a response: nothing, an initial segment of its messages with the start in
front, or such a segment closed by an empty chunk. -/
inductive SentPart (response : Response) (chunkSize : Nat) : List ResponseMessage → Prop
  | nothing : SentPart response chunkSize []
  | segment (count : Nat) : SentPart response chunkSize
      (.start response.start :: ((response.body.chunks chunkSize).take count).map .chunk)
  | closed {count : Nat} (short : count < (response.body.chunks chunkSize).length) :
      SentPart response chunkSize
        (.start response.start ::
          ((response.body.chunks chunkSize).take count ++ [ResponseChunk.last]).map .chunk)

namespace SendOutcome

variable {channel : String} {response : Response} {chunkSize : Nat} {trace : Trace}
  {result : Except Error Unit}

/-- What is accepted is a part of the response. -/
theorem sentPart (outcome : SendOutcome channel (response.encode chunkSize) trace result) :
    ∃ frames, trace.accepted channel = frames.map ResponseMessage.toMessage ∧
      SentPart response chunkSize frames := by
  have head : response.encode chunkSize = (ResponseMessage.start response.start).toMessage ::
      ((response.body.chunks chunkSize).map .chunk).map ResponseMessage.toMessage := rfl
  match result with
  | .ok () =>
      refine ⟨_, ?_, SentPart.segment (response.body.chunks chunkSize).length⟩
      rw [outcome.1, List.take_length]
      rfl
  | .error (.channel source) => exact ⟨[], outcome.1, SentPart.nothing⟩
  | .error (.responseInterrupted replyChannel source) =>
      rcases outcome with ⟨-, count, before, after, positive, rfl, breaksOff⟩
      rcases Nat.exists_eq_succ_of_ne_zero (Nat.pos_iff_ne_zero.mp positive) with ⟨count, rfl⟩
      rcases breaksOff.failed with ⟨message, found, -⟩
      have sent := breaksOff.accepted
      rw [head, List.take_succ_cons, ← List.map_take, ← List.map_take] at sent
      rw [Trace.accepted_append, sent]
      rcases breaksOff.closing with ⟨closed, -⟩ | ⟨open_, -⟩
      · have short : count < (response.body.chunks chunkSize).length := by
          rw [head, List.getElem?_cons_succ] at found
          have bound := (List.getElem?_eq_some_iff.mp found).1
          rw [List.length_map, List.length_map] at bound
          exact bound
        refine ⟨_, ?_, SentPart.closed short⟩
        rw [closed, List.map_append, List.map_cons, List.map_append]
        rfl
      · refine ⟨_, ?_, SentPart.segment count⟩
        rw [open_, List.append_nil]
        rfl

end SendOutcome

namespace SentPart

variable {response : Response} {chunkSize : Nat} {frames : List ResponseMessage}

/-- A part that ends is a response with an initial segment of the body. -/
theorem decode (part : SentPart response chunkSize frames) {content : List UInt8}
    (ends : frames.getLast? = some (.chunk ⟨content, false⟩)) :
    ∃ body, body <+: response.body.bytes ∧
      Response.decode (frames.map ResponseMessage.toMessage) = .ok (response.received body) := by
  have ended := response.body.ended_chunks chunkSize
  rw [← Body.contents_chunks chunkSize]
  cases part with
  | nothing => simp at ends
  | segment count =>
      have final : count ≥ (response.body.chunks chunkSize).length := by
        apply Nat.le_of_not_lt
        intro short
        have more := ended.moreContent_of_take short
        have mem := List.mem_of_getLast? ends
        simp only [List.mem_cons, reduceCtorEq, List.mem_map, false_or] at mem
        rcases mem with ⟨chunk, chunkMem, same⟩
        have announced := more chunk chunkMem
        rw [ResponseMessage.chunk.inj same] at announced
        exact Bool.noConfusion announced
      rw [List.take_of_length_le final]
      refine ⟨_, List.prefix_rfl, ?_⟩
      have whole := Response.decode_start_chunks response ended []
      rw [List.append_nil] at whole
      exact whole
  | @closed count short =>
      refine ⟨_, contents_take_prefix count _, ?_⟩
      have whole := Response.decode_start_chunks response (ended.cut short) []
      have same : contents ((response.body.chunks chunkSize).take count ++ [.last]) =
          contents ((response.body.chunks chunkSize).take count) := by
        rw [contents, List.flatMap_append, contents]
        exact List.append_nil _
      rw [List.append_nil, same] at whole
      exact whole

end SentPart

/-- Sending a response, whatever the attempts to send are answered: what is accepted on the channel
and what is logged is told by the result, it is a part of the response, and once this part ends it
is a response with an initial segment of the body. -/
theorem sendResponse_outcome (settings : HttpSettings) (channel : String) (response : Response)
    (environment : Environment) :
    let played := (sendResponse settings channel response).play environment []
    SendOutcome channel (response.encode settings.chunkSize) played.1 played.2 ∧
      ∃ frames, played.1.accepted channel = frames.map ResponseMessage.toMessage ∧
        SentPart response settings.chunkSize frames ∧
        ∀ content, frames.getLast? = some (.chunk ⟨content, false⟩) →
          ∃ body, body <+: response.body.bytes ∧
            Response.decode (played.1.accepted channel) = .ok (response.received body) := by
  intro played
  have outcome : SendOutcome channel (response.encode settings.chunkSize) played.1 played.2 :=
    sendOutcome_of_run (Program.run_play environment [] _)
  rcases outcome.sentPart with ⟨frames, accepted, part⟩
  refine ⟨outcome, frames, accepted, part, ?_⟩
  intro content ends
  rw [accepted]
  exact part.decode ends

/-- A header that sets a cookie comes back as a cookie, even if nothing fails. -/
theorem sendResponse_setCookie :
    let response : Response := ⟨.ok, [(setCookie, "a=b")], [], .full []⟩
    let played := (sendResponse {} "reply" response).play (.ofScript fun _ => .ok ()) []
    played.2 = .ok () ∧ (played.1.accepted "reply").getLast? = some closingMessage ∧
      ∃ decoded, Response.decode (played.1.accepted "reply") = .ok decoded ∧
        decoded.headers ≠ response.headers := by
  intro response played
  refine ⟨rfl, rfl, response.received [], ?_, ?_⟩
  · exact Response.decode_start_chunks response (Ended.last []) []
  · exact List.cons_ne_nil (setCookie, "a=b") [] ∘ Eq.symm

end Courier.Http
