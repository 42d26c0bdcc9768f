import Courier.Http.View
import Courier.Proofs.Http.Sending
import Courier.Proofs.Program.Within

/-!
# What the consumer around a view answers

A consumer may start a response twice: the response of the view, and a fallback if nothing of the
first one could be sent. The client still gets one head at most, because a failure of the channel
tells that nothing was accepted, and an interruption that a start was. Once a start has been
accepted only chunks are tried behind it, and whatever the attempts are answered, what was accepted
is a start followed by chunks, or nothing.

The end of the consumer tells what the client has got. Success stands for a whole response: that of
the view, or the fallback where the view failed or the start of its response was refused.
-/

namespace Courier.Http

/-! ## One head at most -/

/-- Nothing, or a start followed by chunks. -/
def SingleHead (messages : List Message) : Prop :=
  messages = [] ∨ ∃ (head : ResponseStart) (chunks : List ResponseChunk),
    messages =
      (ResponseMessage.start head :: chunks.map .chunk).map ResponseMessage.toMessage

/-- A message that carries a chunk. -/
def IsChunk (message : Message) : Prop :=
  ∃ chunk : ResponseChunk, message = (ResponseMessage.chunk chunk).toMessage

theorem isChunk_closingMessage : IsChunk closingMessage := ⟨.last, rfl⟩

/-- Attempts to send of which none before a certain start was accepted, that start was, and none
behind it is for anything but a chunk. -/
def HeadThenChunks (channel : String) (attempts : List Attempt) : Prop :=
  ∃ (refused : List Attempt) (head : ResponseStart) (later : List Attempt),
    attempts = refused ++ ⟨channel, (ResponseMessage.start head).toMessage, .ok ()⟩ :: later ∧
      refused.filterMap (Attempt.accepted? channel) = [] ∧
      ∀ attempt ∈ later, attempt.channel = channel ∧ IsChunk attempt.message

theorem exists_chunks_of_isChunk {messages : List Message}
    (all : ∀ message ∈ messages, IsChunk message) :
    ∃ chunks : List ResponseChunk,
      messages = (chunks.map ResponseMessage.chunk).map ResponseMessage.toMessage := by
  induction messages with
  | nil => exact ⟨[], rfl⟩
  | cons message rest ih =>
      rcases all message List.mem_cons_self with ⟨chunk, rfl⟩
      rcases ih fun other mem => all other (List.mem_cons_of_mem _ mem) with ⟨chunks, rfl⟩
      exact ⟨chunk :: chunks, rfl⟩

theorem isChunk_of_mem_accepted {channel : String} {attempts : List Attempt}
    (chunks : ∀ attempt ∈ attempts, IsChunk attempt.message) :
    ∀ message ∈ attempts.filterMap (Attempt.accepted? channel), IsChunk message := by
  intro message mem
  rcases List.mem_filterMap.mp mem with ⟨attempt, attemptMem, accepted⟩
  rw [Attempt.accepted?] at accepted
  split at accepted
  · split at accepted
    · cases accepted
      exact chunks attempt attemptMem
    · cases accepted
  · cases accepted

theorem HeadThenChunks.accepted {channel : String} {trace : Trace}
    (opened : HeadThenChunks channel trace.attempts) :
    ∃ (head : ResponseStart) (chunks : List ResponseChunk),
      trace.accepted channel =
        (ResponseMessage.start head :: chunks.map .chunk).map ResponseMessage.toMessage := by
  rcases opened with ⟨refused, head, later, split, none, chunksOnly⟩
  have tail := @isChunk_of_mem_accepted channel later fun attempt mem =>
    (chunksOnly attempt mem).2
  rcases exists_chunks_of_isChunk tail with ⟨chunks, rest⟩
  refine ⟨head, chunks, ?_⟩
  have first : Attempt.accepted? channel ⟨channel, (ResponseMessage.start head).toMessage, .ok ()⟩ =
      some (ResponseMessage.start head).toMessage := if_pos rfl
  rw [Trace.accepted, split, List.filterMap_append, none, List.nil_append,
    List.filterMap_cons_some first, rest]
  rfl

theorem HeadThenChunks.behind {channel : String} {refused attempts : List Attempt}
    (opened : HeadThenChunks channel attempts)
    (none : refused.filterMap (Attempt.accepted? channel) = []) :
    HeadThenChunks channel (refused ++ attempts) := by
  rcases opened with ⟨before, head, later, rfl, noneBefore, chunksOnly⟩
  refine ⟨refused ++ before, head, later, (List.append_assoc _ _ _).symm, ?_, chunksOnly⟩
  rw [List.filterMap_append, none, noneBefore]
  rfl

/-! ## Attempts of a response -/

theorem within_sendRetrying (settings : HttpSettings) (channel : String) (message : Message)
    (attempt retries : Nat) :
    (sendRetrying settings channel message attempt retries).Within fun target sent =>
      target = channel ∧ sent = message := by
  induction retries generalizing attempt with
  | zero => exact ⟨⟨rfl, rfl⟩, Program.Within.done⟩
  | succ retries ih =>
      refine ⟨⟨rfl, rfl⟩, ?_⟩
      intro answer
      change Except ChannelError Unit at answer
      match answer with
      | .error (.channelFull full) => exact ⟨trivial, fun _ => ih (attempt + 1)⟩
      | .ok _ | .error (.backendUnavailable _) | .error (.duplicateConsumer _)
      | .error (.malformedMessage _) | .error (.unknownBackend _) | .error (.configuration _)
      | .error (.serialization _) => exact Program.Within.done _

theorem within_sendRest (settings : HttpSettings) (channel : String) {messages : List Message}
    (chunks : ∀ message ∈ messages, IsChunk message) :
    (sendRest settings channel messages).Within fun target sent =>
      target = channel ∧ IsChunk sent := by
  induction messages with
  | nil => exact Program.Within.done _
  | cons message rest ih =>
      have patiently : ∀ {sent : Message}, IsChunk sent →
          (sendPatiently settings channel sent).Within fun target sent =>
            target = channel ∧ IsChunk sent := by
        intro sent isChunk
        apply (within_sendRetrying settings channel sent 0 settings.sendRetries).mono
        rintro target other ⟨rfl, rfl⟩
        exact ⟨rfl, isChunk⟩
      apply (patiently (chunks message List.mem_cons_self)).bind
      intro result
      cases result with
      | ok _ => exact ih fun other mem => chunks other (List.mem_cons_of_mem _ mem)
      | error source =>
          have closing : (interrupt settings channel source).Within fun target sent =>
              target = channel ∧ IsChunk sent := by
            apply (patiently isChunk_closingMessage).bind
            intro closed
            cases closed with
            | ok _ => exact Program.Within.done _
            | error _ => exact ⟨trivial, fun _ => Program.Within.done _⟩
          exact closing.bind fun _ => Program.Within.done _

theorem isChunk_of_mem_tail {response : Response} {chunkSize : Nat} {message : Message}
    (mem : message ∈ ((response.body.chunks chunkSize).map ResponseMessage.chunk).map
      ResponseMessage.toMessage) : IsChunk message := by
  rcases List.mem_map.mp mem with ⟨carried, carriedMem, rfl⟩
  rcases List.mem_map.mp carriedMem with ⟨chunk, -, rfl⟩
  exact ⟨chunk, rfl⟩

/-- Attempts to send one message of which one was accepted: none before the last was. -/
theorem Tried.attempts_eq {channel : String} {message : Message} {trace : Trace}
    (tried : Tried channel message (.ok ()) trace) :
    ∃ refused : List Attempt, trace.attempts = refused ++ [⟨channel, message, .ok ()⟩] ∧
      refused.filterMap (Attempt.accepted? channel) = [] := by
  rcases List.getLast?_eq_some_iff.mp tried.last with ⟨refused, split⟩
  refine ⟨refused, split, ?_⟩
  have accepted := tried.accepted
  have one : [(⟨channel, message, .ok ()⟩ : Attempt)].filterMap (Attempt.accepted? channel) =
      [message] := List.filterMap_cons_some (if_pos rfl)
  rw [Trace.accepted, split, List.filterMap_append, one] at accepted
  exact List.append_left_eq_self.mp accepted

/-- Sending a response either fails before anything is accepted, or has its start accepted and then
tries chunks only. -/
theorem headThenChunks_of_run {settings : HttpSettings} {channel : String} {response : Response}
    {trace : Trace} {result : Except Error Unit}
    (run : Program.Run (sendResponse settings channel response) trace (.done result)) :
    (∃ source, result = .error (.channel source) ∧ trace.accepted channel = []) ∨
      HeadThenChunks channel trace.attempts := by
  rcases run.bind_inv with ⟨first, answer, second, rfl, triedRun, afterwards⟩
  have tried := tried_of_run triedRun
  cases answer with
  | error source =>
      rcases afterwards.done_inv with ⟨rfl, rfl⟩
      left
      refine ⟨source, rfl, ?_⟩
      rw [List.append_nil]
      exact tried.accepted
  | ok done =>
      right
      rcases tried.attempts_eq with ⟨refused, split, none⟩
      have chunksOnly := (within_sendRest settings channel
        fun _ mem => isChunk_of_mem_tail mem).allowed_of_run afterwards
      refine ⟨refused, response.start, second.attempts, ?_, none, chunksOnly⟩
      rw [Trace.attempts_append, split, List.append_assoc]
      rfl

/-! ## The consumer around a view -/

/-- A trace in which the start of a response is tried in vain, and nothing is accepted, before
something else is done. -/
def StartRefused (channel : String) (response : Response) (trace : Trace) : Prop :=
  ∃ (before after : Trace) (source : ChannelError), trace = before ++ after ∧
    before.accepted channel = [] ∧
    before.attempts.getLast? =
      some ⟨channel, (ResponseMessage.start response.start).toMessage, .error source⟩

/-- What answering with a response comes to. Success: the whole response was accepted, or all of the
fallback after the start of the response had been refused. An interruption: a start was accepted,
and behind it nothing but chunks was tried. Any other failure: nothing was accepted. -/
def Answered (settings : HttpSettings) (channel : String) (response : Response) (trace : Trace) :
    Outcome → Prop
  | .succeeded => trace.accepted channel = response.encode settings.chunkSize ∨
      StartRefused channel response trace ∧
        trace.accepted channel = Response.failure.encode settings.chunkSize
  | .failed (.http (.responseInterrupted replyChannel _)) => replyChannel = channel ∧
      HeadThenChunks channel trace.attempts
  | .failed (.http (.channel _)) => trace.accepted channel = []
  | _ => False

theorem singleHead_encode (response : Response) (chunkSize : Nat) :
    SingleHead (response.encode chunkSize) :=
  Or.inr ⟨response.start, response.body.chunks chunkSize, rfl⟩

theorem Answered.singleHead {settings : HttpSettings} {channel : String} {response : Response}
    {trace : Trace} {outcome : Outcome}
    (answered : Answered settings channel response trace outcome) :
    SingleHead (trace.accepted channel) := by
  match outcome with
  | .succeeded =>
      rcases answered with whole | ⟨-, whole⟩
      · rw [whole]
        exact singleHead_encode response settings.chunkSize
      · rw [whole]
        exact singleHead_encode .failure settings.chunkSize
  | .failed (.http (.responseInterrupted _ _)) => exact Or.inr answered.2.accepted
  | .failed (.http (.channel _)) => exact Or.inl answered

theorem answered_of_fallback {settings : HttpSettings} {channel : String} {response : Response}
    {first second : Trace} {source : ChannelError} {entry : LogEntry} {outcome : Outcome}
    (refused : SendOutcome channel (response.encode settings.chunkSize) first
      (.error (.channel source)))
    (run : Program.Run
      ((sendResponse settings channel .failure).bind fun result =>
        .done (View.outcomeOf result)) second (.done outcome)) :
    Answered settings channel response (first ++ ⟨.report entry, ()⟩ :: second) outcome := by
  rcases refused with ⟨none, -, message, isFirst, last⟩
  have isStart : message = (ResponseMessage.start response.start).toMessage :=
    (Option.some.inj isFirst).symm
  subst isStart
  -- the start was refused, so all that is accepted is accepted of the fallback
  have silent : Trace.accepted channel [⟨.report entry, ()⟩] = [] := rfl
  have accepted : Trace.accepted channel (first ++ ⟨.report entry, ()⟩ :: second) =
      second.accepted channel := by
    rw [List.append_cons, Trace.accepted_append, Trace.accepted_append, none, silent]
    rfl
  have attempts : Trace.attempts (first ++ ⟨.report entry, ()⟩ :: second) =
      first.attempts ++ second.attempts := Trace.attempts_append first _
  rcases run.bind_inv with ⟨sent, result, end_, rfl, sentRun, ends⟩
  rcases ends.done_inv with ⟨rfl, rfl⟩
  rw [List.append_nil] at accepted attempts ⊢
  have outcome := sendOutcome_of_run sentRun
  match result with
  | .ok () =>
      right
      refine ⟨⟨first, _, source, rfl, none, last⟩, ?_⟩
      rw [accepted]
      exact outcome.1
  | .error (.channel other) =>
      change Trace.accepted channel _ = []
      rw [accepted]
      exact outcome.1
  | .error (.responseInterrupted replyChannel other) =>
      refine ⟨outcome.1, ?_⟩
      rw [attempts]
      rcases headThenChunks_of_run sentRun with ⟨_, impossible, -⟩ | opened
      · cases impossible
      · exact opened.behind none

theorem answered_of_run {settings : HttpSettings} {channel : String} {response : Response}
    {trace : Trace} {outcome : Outcome}
    (run : Program.Run (View.answer settings channel response) trace (.done outcome)) :
    Answered settings channel response trace outcome := by
  rcases run.bind_inv with ⟨first, result, second, rfl, sentRun, afterwards⟩
  have sent := sendOutcome_of_run sentRun
  match result with
  | .ok () =>
      rcases afterwards.done_inv with ⟨rfl, rfl⟩
      left
      rw [List.append_nil]
      exact sent.1
  | .error (.responseInterrupted replyChannel source) =>
      rcases afterwards.perform_inv with ⟨_, rest, rfl, ends⟩
      rcases ends.done_inv with ⟨rfl, rfl⟩
      refine ⟨sent.1, ?_⟩
      rw [Trace.attempts_append]
      rcases headThenChunks_of_run sentRun with ⟨_, impossible, -⟩ | opened
      · cases impossible
      · rw [show Trace.attempts [_] = [] from rfl, List.append_nil]
        exact opened
  | .error (.channel source) =>
      rcases afterwards.perform_inv with ⟨_, rest, rfl, fallback⟩
      exact answered_of_fallback sent fallback

/-- What handling a request by a view comes to, by what the view has come to: `own` is what the
consumer does behind the view. -/
def Handled (settings : HttpSettings) (channel : String) (own : Trace) (outcome : Outcome) :
    ViewResult → Prop
  | .immediate response => Answered settings channel response own outcome
  | .failed error => ∃ rest,
      own = ⟨.report (.error ("View failed: " ++ error.message)), ()⟩ :: rest ∧
        Answered settings channel .failure rest outcome
  | .deferred _ => own = [] ∧ outcome = .succeeded
  | .brokeDown reason => own = [] ∧ outcome = .brokeDown reason

theorem Handled.singleHead {settings : HttpSettings} {channel : String} {own : Trace}
    {outcome : Outcome} {result : ViewResult}
    (handled : Handled settings channel own outcome result) : SingleHead (own.accepted channel) := by
  match result with
  | .immediate _ => exact Answered.singleHead handled
  | .failed _ =>
      rcases handled with ⟨rest, rfl, answered⟩
      exact answered.singleHead
  | .deferred _ | .brokeDown _ =>
      rw [handled.1]
      exact Or.inl rfl

/-- A run of the consumer around a view is a run of the view with something behind it. -/
theorem handled_of_run {settings : HttpSettings} {view : View} {message : Message}
    {context : Context} {request : RequestPayload} {trace : Trace} {outcome : Outcome}
    (readable : RequestPayload.ofMessage message = .ok request)
    (run : Program.Run (View.consume settings view message context) trace (.done outcome)) :
    ∃ (viewed own : Trace) (result : ViewResult), trace = viewed ++ own ∧
      Program.Run (view request context) viewed (.done result) ∧
      Handled settings request.replyChannel own outcome result := by
  rw [View.consume, readable] at run
  rcases run.bind_inv with ⟨viewed, result, own, rfl, viewRun, afterwards⟩
  refine ⟨viewed, own, result, rfl, viewRun, ?_⟩
  match result with
  | .immediate response => exact answered_of_run afterwards
  | .failed error =>
      rcases afterwards.perform_inv with ⟨_, rest, rfl, answering⟩
      exact ⟨rest, rfl, answered_of_run answering⟩
  | .deferred _ =>
      rcases afterwards.done_inv with ⟨rfl, rfl⟩
      exact ⟨rfl, rfl⟩
  | .brokeDown reason =>
      rcases afterwards.done_inv with ⟨rfl, rfl⟩
      exact ⟨rfl, rfl⟩

/-- A message is answered once at most, whatever the sends are answered and whatever the view does
as long as it sends nothing to the reply channel itself. A message that cannot be read and a view
that defers its answer leave nothing there. Otherwise success tells that a whole response was
accepted, an interruption that a start was and only chunks were tried behind it, and any other
failure that nothing was. -/
theorem consume_answers_once (settings : HttpSettings) (view : View) (message : Message)
    (context : Context) (environment : Environment)
    (quiet : ∀ request, RequestPayload.ofMessage message = .ok request →
      (view request context).Within fun channel _ => channel ≠ request.replyChannel) :
    let played := (View.consume settings view message context).play environment []
    match RequestPayload.ofMessage message with
    | .error error => played = ([], .failed (.channel (Payload.malformed error)))
    | .ok request =>
        SingleHead (played.1.accepted request.replyChannel) ∧
          ∃ (viewed own : Trace) (result : ViewResult), played.1 = viewed ++ own ∧
            Program.Run (view request context) viewed (.done result) ∧
            played.1.accepted request.replyChannel = own.accepted request.replyChannel ∧
            Handled settings request.replyChannel own played.2 result := by
  intro played
  cases readable : RequestPayload.ofMessage message with
  | error error =>
      change (View.consume settings view message context).play environment [] = _
      rw [View.consume, readable]
      rfl
  | ok request =>
      have run := Program.run_play environment [] (View.consume settings view message context)
      rcases handled_of_run readable run with ⟨viewed, own, result, split, viewRun, handled⟩
      have none := Trace.accepted_eq_nil ((quiet request readable).allowed_of_run viewRun)
      have same : played.1.accepted request.replyChannel = own.accepted request.replyChannel := by
        change Trace.accepted request.replyChannel
          ((View.consume settings view message context).play environment []).1 = _
        rw [split, Trace.accepted_append, none, List.nil_append]
      refine ⟨?_, viewed, own, result, split, viewRun, same, handled⟩
      rw [same]
      exact handled.singleHead

/-- A request for the root of a site. -/
def rootRequest : Message :=
  ⟨[("path", .text "/"), ("path_info", .text "/"), ("method", .text "GET"),
    ("reply_channel", .text "reply")]⟩

/-- Where the send behind the start fails, the client gets the start and an empty last chunk, and no
fallback. -/
theorem consume_answers_once_interrupted :
    let view : View := fun _ _ => .done (.immediate (.ofStatus .ok))
    let environment := Environment.ofScript fun count =>
      if count = 1 then .error (.backendUnavailable "down") else .ok ()
    let context : Context := ⟨RequestPayload.channel, "default"⟩
    let played := (View.consume {} view rootRequest context).play environment []
    ∃ request, RequestPayload.ofMessage rootRequest = .ok request ∧
      ((view request context).Within fun channel _ => channel ≠ request.replyChannel) ∧
      played.2 = .failed (.http (.responseInterrupted "reply" (.backendUnavailable "down"))) ∧
      played.1.accepted "reply" =
        [(ResponseMessage.start ⟨200, []⟩).toMessage, closingMessage] ∧
      SingleHead (played.1.accepted "reply") := by
  intro view environment context played
  have quiet : ∀ request, RequestPayload.ofMessage rootRequest = .ok request →
      (view request context).Within fun channel _ => channel ≠ request.replyChannel :=
    fun _ _ => Program.Within.done _
  have once := consume_answers_once {} view rootRequest context environment quiet
  exact ⟨_, rfl, Program.Within.done _, rfl, rfl, once.1⟩

end Courier.Http
