import Courier.Http.Interface
import Courier.Proofs.Http.Collecting

/-!
# Stages of a reply

A reply is read twice over in this library: a collector pushes its messages and looks at the result
at the end, and a client is given the head and the body as they come. Without the time that a client
may have to wait, the second way is a machine of three stages, which a message or a failure moves
on.

The two machines agree. Where no more messages come, the client has a whole response just where the
collector has one, with the same status and the same bytes. Where they come to nothing, the stages
tell why: which message was out of place, and what had been handed on before it.
-/

namespace Courier.Http

/-! ## The machine -/

/-- How far the reading of a reply has come, whatever it waits for. -/
inductive Stage where
  | awaiting
  | body (head : Head) (content : List UInt8)
  | finished (result : Except Error NativeResponse)

/-- A response that ends, or breaks off, behind some content. -/
def Head.answer (head : Head) (content : List UInt8) (broken : Bool) : NativeResponse :=
  { status := head.status, headers := head.headers, body := content, broken }

/-- The stage of an exchange. -/
def ExchangeState.stage : ExchangeState → Stage
  | .awaitingHead _ => .awaiting
  | .readingBody head content _ => .body head content
  | .answered response => .finished (.ok response)
  | .failed error => .finished (.error error)

namespace Stage

/-- What a first message comes to. -/
def takeHead (message : Message) : Stage :=
  match ResponseMessage.ofMessage message with
  | .error error => .finished (.error (Collector.malformed error))
  | .ok (.chunk _) => .finished (.error Exchange.strayChunk)
  | .ok (.start start) =>
      match Collector.statusOf start.status with
      | .error error => .finished (.error error)
      | .ok status => .body ⟨status, (Exchange.clientHeaders start.headers).1⟩ []

/-- What a message behind the head comes to. -/
def takeBody (head : Head) (content : List UInt8) (message : Message) : Stage :=
  match ResponseMessage.ofMessage message with
  | .error _ | .ok (.start _) => .finished (.ok (head.answer content true))
  | .ok (.chunk chunk) =>
      if chunk.moreContent then .body head (content ++ chunk.content)
      else .finished (.ok (head.answer (content ++ chunk.content) false))

/-- The stage behind another message. -/
def take : Stage → Message → Stage
  | .awaiting, message => takeHead message
  | .body head content, message => takeBody head content message
  | .finished result, _ => .finished result

/-- The stage behind messages. -/
def takeAll (stage : Stage) (messages : List Message) : Stage := messages.foldl take stage

/-- The stage behind a reading that fails. -/
def fail (error : Error) : Stage → Stage
  | .awaiting => .finished (.error error)
  | .body head content => .finished (.ok (head.answer content true))
  | .finished result => .finished result

/-- What a client has of a reply behind which nothing comes. -/
def result (error : Error) : Stage → Except Error NativeResponse
  | .awaiting => .error error
  | .body head content => .ok (head.answer content true)
  | .finished result => result

theorem fail_eq_finished (error : Error) (stage : Stage) :
    stage.fail error = .finished (stage.result error) := by
  cases stage <;> rfl

@[simp]
theorem takeAll_finished (result : Except Error NativeResponse) (messages : List Message) :
    (finished result).takeAll messages = .finished result := by
  induction messages with
  | nil => rfl
  | cons message rest ih => exact ih

theorem takeAll_append (stage : Stage) (first second : List Message) :
    stage.takeAll (first ++ second) = (stage.takeAll first).takeAll second :=
  List.foldl_append

theorem takeAll_snoc (stage : Stage) (messages : List Message) (message : Message) :
    stage.takeAll (messages ++ [message]) = (stage.takeAll messages).take message :=
  takeAll_append stage messages [message]

theorem take_ne_awaiting (stage : Stage) (message : Message) : stage.take message ≠ .awaiting := by
  cases stage with
  | finished result => nofun
  | awaiting =>
      rw [take, takeHead]
      split
      · nofun
      · nofun
      · split
        · nofun
        · nofun
  | body head content =>
      rw [take, takeBody]
      split
      · nofun
      · nofun
      · split
        · nofun
        · nofun

end Stage

namespace Exchange

theorem stage_acceptHead (exchange : Exchange) (now : Instant) (message : Message) :
    (exchange.acceptHead now message).1.stage = Stage.takeHead message := by
  rw [acceptHead, Stage.takeHead]
  cases ResponseMessage.ofMessage message with
  | error error => rfl
  | ok carried =>
      cases carried with
      | chunk chunk => rfl
      | start start =>
          dsimp only
          cases Collector.statusOf start.status with
          | error error => rfl
          | ok status => rfl

theorem stage_acceptBody (exchange : Exchange) (now : Instant) (head : Head) (content : List UInt8)
    (message : Message) :
    (exchange.acceptBody now head content message).1.stage =
      Stage.takeBody head content message := by
  rw [acceptBody, Stage.takeBody]
  cases ResponseMessage.ofMessage message with
  | error error => rfl
  | ok carried =>
      cases carried with
      | start start => rfl
      | chunk chunk =>
          dsimp only
          cases chunk.moreContent with
          | true => rfl
          | false => rfl

theorem stage_accept (exchange : Exchange) (now : Instant) (read : Read) :
    (exchange.accept now read).1.stage =
      match read with
      | .message message => exchange.state.stage.take message
      | .failed error => exchange.state.stage.fail error
      | .reading _ => exchange.state.stage := by
  rcases exchange with ⟨settings, channel, state⟩
  cases read with
  | reading reading => cases state <;> rfl
  | failed error => cases state <;> rfl
  | message message =>
      cases state with
      | answered response => rfl
      | failed error => rfl
      | awaitingHead reading => exact stage_acceptHead _ now message
      | readingBody head content reading => exact stage_acceptBody _ now head content message

end Exchange

/-! ## What messages carry -/

/-- Messages that can be read, and what they carry. -/
def Carry (messages : List Message) (frames : List ResponseMessage) : Prop :=
  messages.map ResponseMessage.ofMessage = frames.map Except.ok

namespace Carry

variable {messages front : List Message} {message : Message} {frame : ResponseMessage}
  {frames : List ResponseMessage}

theorem nil : Carry [] [] := rfl

theorem cons (read : ResponseMessage.ofMessage message = .ok frame)
    (carry : Carry messages frames) : Carry (message :: messages) (frame :: frames) := by
  rw [Carry, List.map_cons, List.map_cons, read, carry]

theorem cons_inv (carry : Carry messages (frame :: frames)) :
    ∃ message rest, messages = message :: rest ∧
      ResponseMessage.ofMessage message = .ok frame ∧ Carry rest frames := by
  cases messages with
  | nil => cases carry
  | cons message rest =>
      rw [Carry, List.map_cons, List.map_cons, List.cons.injEq] at carry
      exact ⟨message, rest, rfl, carry.1, carry.2⟩

end Carry

/-- A message that cannot follow a start: it is malformed, or another start. -/
def OutOfPlace (message : Message) : Prop :=
  (∃ error, ResponseMessage.ofMessage message = .error error) ∨
    ∃ start, ResponseMessage.ofMessage message = .ok (.start start)

/-- A message with which no reply begins: it is malformed, a chunk, or a start with a status that is
none. -/
def NoHead (message : Message) : Prop :=
  (∃ error, ResponseMessage.ofMessage message = .error error) ∨
    (∃ chunk, ResponseMessage.ofMessage message = .ok (.chunk chunk)) ∨
    ∃ start, ResponseMessage.ofMessage message = .ok (.start start) ∧
      ¬(100 ≤ start.status ∧ start.status ≤ 999)

theorem statusOf_eq_ok {code : Nat} {status : Status} (valid : Collector.statusOf code = .ok status) :
    status.code = code := by
  rw [Collector.statusOf, Status.ofCode?] at valid
  split at valid
  · cases valid
  · rename_i found
    split at found
    · cases found
      cases valid
      rfl
    · cases found

theorem not_valid_of_statusOf {code : Nat} {error : Error}
    (invalid : Collector.statusOf code = .error error) : ¬(100 ≤ code ∧ code ≤ 999) := by
  intro valid
  rw [Collector.statusOf, Status.ofCode?, dif_pos valid] at invalid
  cases invalid

/-! ## The body -/

/-- What is read of a body, up to the point where it ends or breaks off. -/
inductive BodyRead (messages : List Message) : List UInt8 → Bool → Prop
  | ended {front rest : List Message} {chunks : List ResponseChunk}
      (split : messages = front ++ rest) (carry : Carry front (chunks.map .chunk))
      (ended : Ended chunks) : BodyRead messages (contents chunks) false
  | broken {front rest : List Message} {chunks : List ResponseChunk}
      (split : messages = front ++ rest) (carry : Carry front (chunks.map .chunk))
      (more : ∀ chunk ∈ chunks, chunk.moreContent = true)
      (gap : rest = [] ∨ ∃ message others, rest = message :: others ∧ OutOfPlace message) :
      BodyRead messages (contents chunks) true

theorem BodyRead.cons {message : Message} {messages : List Message} {chunk : ResponseChunk}
    {content : List UInt8} {broken : Bool}
    (read : ResponseMessage.ofMessage message = .ok (.chunk chunk))
    (more : chunk.moreContent = true) (rest : BodyRead messages content broken) :
    BodyRead (message :: messages) (chunk.content ++ content) broken := by
  rcases chunk with ⟨bytes, moreContent⟩
  change moreContent = true at more
  subst more
  cases rest with
  | @ended front rest chunks split carry ended =>
      subst split
      exact @BodyRead.ended _ (message :: front) rest (⟨bytes, true⟩ :: chunks) rfl (carry.cons read)
        (ended.more bytes)
  | @broken front rest chunks split carry more gap =>
      subst split
      apply @BodyRead.broken _ (message :: front) rest (⟨bytes, true⟩ :: chunks) rfl
        (carry.cons read) _ gap
      intro other mem
      rcases List.mem_cons.mp mem with rfl | mem
      · rfl
      · exact more other mem

/-- Behind a head, whatever messages come, a body is read to its end or to where it breaks off. -/
theorem bodyRead_of_takeAll (head : Head) (content : List UInt8) (messages : List Message)
    (error : Error) :
    ∃ read broken, BodyRead messages read broken ∧
      ((Stage.body head content).takeAll messages).result error =
        .ok (head.answer (content ++ read) broken) := by
  induction messages generalizing content with
  | nil =>
      refine ⟨[], true, ?_, ?_⟩
      · exact @BodyRead.broken [] [] [] [] rfl Carry.nil (fun _ mem => absurd mem List.not_mem_nil)
          (Or.inl rfl)
      · rw [List.append_nil]
        rfl
  | cons message rest ih =>
      have out : OutOfPlace message → BodyRead (message :: rest) [] true := fun out =>
        @BodyRead.broken _ [] (message :: rest) [] rfl Carry.nil
          (fun _ mem => absurd mem List.not_mem_nil) (Or.inr ⟨message, rest, rfl, out⟩)
      have stepped : (Stage.body head content).takeAll (message :: rest) =
          (Stage.takeBody head content message).takeAll rest := rfl
      rw [stepped, Stage.takeBody]
      cases read : ResponseMessage.ofMessage message with
      | error malformed =>
          refine ⟨[], true, out (Or.inl ⟨malformed, read⟩), ?_⟩
          simp only [Stage.takeAll_finished, Stage.result, List.append_nil]
      | ok carried =>
          cases carried with
          | start start =>
              refine ⟨[], true, out (Or.inr ⟨start, read⟩), ?_⟩
              simp only [Stage.takeAll_finished, Stage.result, List.append_nil]
          | chunk chunk =>
              cases more : chunk.moreContent with
              | true =>
                  rcases ih (content ++ chunk.content) with ⟨later, broken, bodyRead, result⟩
                  refine ⟨chunk.content ++ later, broken, bodyRead.cons read more, ?_⟩
                  simp only [more, if_true]
                  rw [result, List.append_assoc]
              | false =>
                  rcases chunk with ⟨bytes, moreContent⟩
                  change moreContent = false at more
                  subst more
                  refine ⟨contents [⟨bytes, false⟩], false, ?_, ?_⟩
                  · exact @BodyRead.ended _ [message] rest [⟨bytes, false⟩] rfl (Carry.nil.cons read)
                      (Ended.last bytes)
                  · simp only [Bool.false_eq_true, if_false, Stage.takeAll_finished, Stage.result,
                      contents, List.flatMap_singleton]

/-! ## Collectors -/

namespace Collector

theorem push_of_ofMessage {collector : Collector} (open_ : collector.complete = false)
    {message : Message} {carried : ResponseMessage}
    (read : ResponseMessage.ofMessage message = .ok carried) :
    collector.push message = collector.add carried := by
  rw [push, open_, read]
  rfl

/-- Behind a start, chunks that end complete the response, and nothing behind them is looked at. -/
theorem pushAll_of_ended (start : ResponseStart) (body : List UInt8) {front : List Message}
    {chunks : List ResponseChunk} (carry : Carry front (chunks.map .chunk)) (ended : Ended chunks)
    (rest : List Message) :
    pushAll ⟨some start, body, false⟩ (front ++ rest) =
      .ok ⟨some start, body ++ contents chunks, true⟩ := by
  induction ended generalizing body front with
  | last content =>
      rcases carry.cons_inv with ⟨message, none, rfl, read, nothing⟩
      rw [List.cons_append, pushAll, push_of_ofMessage rfl read]
      simp only [add, Option.isNone_some, Bool.false_eq_true, if_false, Bool.not_false, if_true,
        contents, List.flatMap_singleton]
  | more content ended ih =>
      rcases carry.cons_inv with ⟨message, others, rfl, read, carryRest⟩
      rw [List.cons_append, pushAll, push_of_ofMessage rfl read]
      simp only [add, Option.isNone_some, Bool.false_eq_true, if_false, Bool.not_true]
      rw [ih (body ++ content) carryRest, contents, contents, List.flatMap_cons, List.append_assoc]

/-- Behind a start, chunks that announce more and then a gap or a message out of place complete
nothing. -/
theorem pushAll_of_broken (start : ResponseStart) (body : List UInt8) {front rest : List Message}
    {chunks : List ResponseChunk} (carry : Carry front (chunks.map .chunk))
    (more : ∀ chunk ∈ chunks, chunk.moreContent = true)
    (gap : rest = [] ∨ ∃ message others, rest = message :: others ∧ OutOfPlace message)
    {collector : Collector}
    (pushed : pushAll ⟨some start, body, false⟩ (front ++ rest) = .ok collector) :
    collector.complete = false := by
  induction chunks generalizing body front with
  | nil =>
      -- a gap leaves the collector as it is, and a message out of place is an error
      have none : front = [] := List.map_eq_nil_iff.mp carry
      subst none
      rcases gap with rfl | ⟨message, others, rfl, ⟨error, unread⟩ | ⟨second, read⟩⟩
      · cases pushed
        rfl
      · simp only [List.nil_append, pushAll, push, Bool.false_eq_true, if_false, unread] at pushed
        cases pushed
      · rw [List.nil_append, pushAll, push_of_ofMessage rfl read] at pushed
        cases pushed
  | cons chunk chunks ih =>
      rcases carry.cons_inv with ⟨message, others, rfl, read, carryRest⟩
      rcases chunk with ⟨content, moreContent⟩
      have announced : moreContent = true := more _ List.mem_cons_self
      subst announced
      rw [List.cons_append, pushAll, push_of_ofMessage rfl read] at pushed
      simp only [add, Option.isNone_some, Bool.false_eq_true, if_false, Bool.not_true] at pushed
      exact ih (body ++ content) carryRest
        (fun other mem => more other (List.mem_cons_of_mem _ mem)) pushed

theorem finish_of_incomplete {collector : Collector} (incomplete : collector.complete = false) :
    collector.finish = .error (.invalidResponse "Response is incomplete") := by
  rcases collector with ⟨start, body, complete⟩
  change complete = false at incomplete
  subst incomplete
  cases start <;> rfl

theorem decode_of_ended {first : Message} {rest : List Message} {start : ResponseStart}
    {content : List UInt8} (read : ResponseMessage.ofMessage first = .ok (.start start))
    (body : BodyRead rest content false) :
    Response.decode (first :: rest) = (⟨some start, content, true⟩ : Collector).finish := by
  cases body with
  | ended split carry ended =>
      have pushed := pushAll_of_ended start [] carry ended
      rw [Response.decode, pushAll, push_of_ofMessage rfl read]
      simp only [add, Option.isSome_none, Bool.false_eq_true, if_false, split, pushed,
        List.nil_append]

theorem decode_of_broken {first : Message} {rest : List Message} {start : ResponseStart}
    {content : List UInt8} (read : ResponseMessage.ofMessage first = .ok (.start start))
    (body : BodyRead rest content true) :
    ∃ problem, Response.decode (first :: rest) = .error problem := by
  cases body with
  | @broken front rest chunks split carry more gap =>
      subst split
      rw [Response.decode, pushAll, push_of_ofMessage rfl read]
      simp only [add, Option.isSome_none, Bool.false_eq_true, if_false]
      cases pushed : pushAll ⟨some start, [], false⟩ (front ++ rest) with
      | error problem => exact ⟨problem, rfl⟩
      | ok collector =>
          have incomplete := pushAll_of_broken start [] carry more gap pushed
          exact ⟨_, finish_of_incomplete incomplete⟩

end Collector

/-! ## The head -/

theorem start_or_noHead (message : Message) :
    (∃ start status, ResponseMessage.ofMessage message = .ok (.start start) ∧
      Collector.statusOf start.status = .ok status) ∨ NoHead message := by
  cases read : ResponseMessage.ofMessage message with
  | error error => exact Or.inr (Or.inl ⟨error, read⟩)
  | ok carried =>
      cases carried with
      | chunk chunk => exact Or.inr (Or.inr (Or.inl ⟨chunk, read⟩))
      | start start =>
          cases valid : Collector.statusOf start.status with
          | ok status => exact Or.inl ⟨start, status, rfl, valid⟩
          | error error =>
              exact Or.inr (Or.inr (Or.inr ⟨start, read, not_valid_of_statusOf valid⟩))

theorem Stage.takeHead_of_start {message : Message} {start : ResponseStart} {status : Status}
    (read : ResponseMessage.ofMessage message = .ok (.start start))
    (valid : Collector.statusOf start.status = .ok status) :
    takeHead message = .body ⟨status, (Exchange.clientHeaders start.headers).1⟩ [] := by
  simp only [takeHead, read, valid]

theorem statusOf_of_not_valid {code : Nat} (invalid : ¬(100 ≤ code ∧ code ≤ 999)) :
    ∃ error, Collector.statusOf code = .error error := by
  rw [Collector.statusOf, Status.ofCode?, dif_neg invalid]
  exact ⟨_, rfl⟩

theorem Stage.takeHead_of_noHead {message : Message} (noHead : NoHead message) :
    ∃ reason, takeHead message = .finished (.error reason) := by
  rcases noHead with ⟨error, unread⟩ | ⟨chunk, read⟩ | ⟨start, read, invalid⟩
  · exact ⟨Collector.malformed error, by simp only [takeHead, unread]⟩
  · exact ⟨Exchange.strayChunk, by simp only [takeHead, read]⟩
  · rcases statusOf_of_not_valid invalid with ⟨error, noStatus⟩
    exact ⟨error, by simp only [takeHead, read, noStatus]⟩

theorem exists_bodyRead (messages : List Message) :
    ∃ content broken, BodyRead messages content broken := by
  rcases bodyRead_of_takeAll ⟨.ok, .empty⟩ [] messages (.server "") with
    ⟨content, broken, body, -⟩
  exact ⟨content, broken, body⟩

theorem Collector.decode_of_noHead {first : Message} (noHead : NoHead first)
    (rest : List Message) : ∃ problem, Response.decode (first :: rest) = .error problem := by
  rcases noHead with ⟨error, unread⟩ | ⟨chunk, read⟩ | ⟨start, read, invalid⟩
  · refine ⟨malformed error, ?_⟩
    simp only [Response.decode, pushAll, push, Bool.false_eq_true, if_false, unread]
  · refine ⟨Exchange.strayChunk, ?_⟩
    rw [Response.decode, pushAll, push_of_ofMessage rfl read]
    rfl
  · rcases exists_bodyRead rest with ⟨content, broken, body⟩
    cases broken with
    | true => exact decode_of_broken read body
    | false =>
        rcases statusOf_of_not_valid invalid with ⟨error, noStatus⟩
        refine ⟨error, ?_⟩
        rw [decode_of_ended read body]
        simp only [finish, noStatus]

/-! ## Two readers -/

/-- What a client has of messages behind which nothing comes, and what a collector makes of them. -/
inductive Reply (messages : List Message) (silence : Error) :
    Except Error NativeResponse → Except Error Response → Prop
  | whole {first : Message} {rest : List Message} {start : ResponseStart} {status : Status}
      {content : List UInt8} (split : messages = first :: rest)
      (read : ResponseMessage.ofMessage first = .ok (.start start))
      (valid : status.code = start.status) (body : BodyRead rest content false) :
      Reply messages silence
        (.ok (Head.answer ⟨status, (Exchange.clientHeaders start.headers).1⟩ content false))
        (.ok (.ofHeaders status start.headers (.full content)))
  | broken {first : Message} {rest : List Message} {start : ResponseStart} {status : Status}
      {content : List UInt8} {problem : Error} (split : messages = first :: rest)
      (read : ResponseMessage.ofMessage first = .ok (.start start))
      (valid : status.code = start.status) (body : BodyRead rest content true) :
      Reply messages silence
        (.ok (Head.answer ⟨status, (Exchange.clientHeaders start.headers).1⟩ content true))
        (.error problem)
  | refused {first : Message} {rest : List Message} {reason problem : Error}
      (split : messages = first :: rest) (noHead : NoHead first) :
      Reply messages silence (.error reason) (.error problem)
  | nothing {problem : Error} (none : messages = []) :
      Reply messages silence (.error silence) (.error problem)

/-- The two ways to read a reply agree on all messages, behind which nothing comes. -/
theorem reply_of_takeAll (messages : List Message) (silence : Error) :
    Reply messages silence ((Stage.awaiting.takeAll messages).result silence)
      (Response.decode messages) := by
  cases messages with
  | nil => exact Reply.nothing rfl
  | cons first rest =>
      have stepped : Stage.awaiting.takeAll (first :: rest) =
          (Stage.takeHead first).takeAll rest := rfl
      rw [stepped]
      rcases start_or_noHead first with ⟨start, status, read, valid⟩ | noHead
      · rcases bodyRead_of_takeAll ⟨status, (Exchange.clientHeaders start.headers).1⟩ [] rest
          silence with ⟨content, broken, body, result⟩
        rw [Stage.takeHead_of_start read valid, result, List.nil_append]
        cases broken with
        | false =>
            rw [Collector.decode_of_ended read body]
            simp only [Collector.finish, valid]
            exact Reply.whole rfl read (statusOf_eq_ok valid) body
        | true =>
            rcases Collector.decode_of_broken read body with ⟨problem, decoded⟩
            rw [decoded]
            exact Reply.broken rfl read (statusOf_eq_ok valid) body
      · rcases Stage.takeHead_of_noHead noHead with ⟨reason, refused⟩
        rcases Collector.decode_of_noHead noHead rest with ⟨problem, decoded⟩
        rw [refused, decoded, Stage.takeAll_finished]
        exact Reply.refused rfl noHead

end Courier.Http
