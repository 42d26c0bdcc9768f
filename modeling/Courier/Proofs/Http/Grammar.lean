import Courier.Proofs.Http.Collecting

/-!
# What a collector accepts

A collector is offered messages of any kind, one after another, and takes only those that continue a
response: a start, chunks that announce more, and a chunk that ends the response. Adding a message
changes the collector field by field, but everything that can be wrong with the message is found out
before the first change. So a message that is refused might as well not have come.

At any time the collector is known from the messages that it has accepted. There are none, or a
start and chunks that all announce more, or a start and chunks that end.
-/

namespace Courier.Http

namespace Collector

/-- Adds a message in place, and tells whether the response is complete then. -/
def feed (message : Message) : ExceptT Error (StateM Collector) Bool := do
  if (← get).complete then
    throw (.invalidResponse "Message received after the response ended")
  match ResponseMessage.ofMessage message with
  | .error error => throw (malformed error)
  | .ok (.start head) =>
      if (← get).start.isSome then throw (.invalidResponse "Duplicate response start")
      modify fun collector => { collector with start := some head }
  | .ok (.chunk part) =>
      if (← get).start.isNone then
        throw (.invalidResponse "Response chunk before response start")
      modify fun collector => { collector with body := collector.body ++ part.content }
      modify fun collector => { collector with complete := !part.moreContent }
  return (← get).complete

/-- Offers a message to a collector: the answer, and the collector behind it. -/
def offer (collector : Collector) (message : Message) : Except Error Bool × Collector :=
  (feed message).run.run collector

/-- Adding in place is all or nothing: the collector is the next one, or the same as before. -/
theorem offer_eq (collector : Collector) (message : Message) :
    collector.offer message =
      match collector.push message with
      | .ok next => (.ok next.complete, next)
      | .error error => (.error error, collector) := by
  rcases collector with ⟨start, body, complete⟩
  cases complete with
  | true => rfl
  | false =>
      simp only [offer, feed, push]
      cases ResponseMessage.ofMessage message with
      | error error => rfl
      | ok carried => cases carried <;> cases start <;> rfl

end Collector

/-- Messages that were offered to a collector: what it is now, what it answered each time, and what
the accepted messages carry. -/
structure Intake where
  collector : Collector := {}
  answers : List (Except Error Bool) := []
  accepted : List ResponseMessage := []

namespace Intake

def offer (intake : Intake) (message : Message) : Intake :=
  let (answer, collector) := intake.collector.offer message
  { collector
    answers := intake.answers ++ [answer]
    accepted := intake.accepted ++
      match answer, ResponseMessage.ofMessage message with
      | .ok _, .ok carried => [carried]
      | _, _ => [] }

def offerAll (intake : Intake) (messages : List Message) : Intake := messages.foldl offer intake

/-- The intake of a collector that was empty at first. -/
def ofMessages (messages : List Message) : Intake := offerAll {} messages

end Intake

/-! ## One message -/

/-- Why a message does not continue the messages that were accepted: the response is complete, the
message is of no known kind, or it is a second start or a chunk without a start. -/
inductive Discontinues (accepted : List ResponseMessage) (message : Message) : Prop
  | complete {part : ResponseChunk} (mem : .chunk part ∈ accepted) (last : part.moreContent = false)
  | unreadable {error : DecodeError} (read : ResponseMessage.ofMessage message = .error error)
  | secondStart {head first : ResponseStart}
      (read : ResponseMessage.ofMessage message = .ok (.start head)) (mem : .start first ∈ accepted)
  | withoutStart {part : ResponseChunk}
      (read : ResponseMessage.ofMessage message = .ok (.chunk part))
      (none : ∀ head, .start head ∉ accepted)

/-- Chunks of which the last one ends a response come from chunks that announce more. -/
theorem Ended.of_concat {chunks : List ResponseChunk}
    (more : ∀ chunk ∈ chunks, chunk.moreContent = true) (content : List UInt8) :
    Ended (chunks ++ [⟨content, false⟩]) :=
  Ended.append more (Ended.last content)

theorem Ended.exists_last {chunks : List ResponseChunk} (ended : Ended chunks) :
    ∃ part ∈ chunks, part.moreContent = false := by
  induction ended with
  | last content => exact ⟨⟨content, false⟩, List.mem_singleton_self _, rfl⟩
  | more content ended ih =>
      rcases ih with ⟨part, mem, last⟩
      exact ⟨part, List.mem_cons_of_mem _ mem, last⟩

theorem contents_concat (chunks : List ResponseChunk) (part : ResponseChunk) :
    contents (chunks ++ [part]) = contents chunks ++ part.content := by
  simp [contents]

namespace Collector

/-- What a collector is that has accepted some messages. -/
inductive Holds : List ResponseMessage → Collector → Prop
  | nothing : Holds [] {}
  | started (head : ResponseStart) {chunks : List ResponseChunk}
      (more : ∀ chunk ∈ chunks, chunk.moreContent = true) :
      Holds (.start head :: chunks.map .chunk) ⟨some head, contents chunks, false⟩
  | whole (head : ResponseStart) {chunks : List ResponseChunk} (ended : Ended chunks) :
      Holds (.start head :: chunks.map .chunk) ⟨some head, contents chunks, true⟩

/-- What becomes of a message that is offered: it does not continue what was accepted, and nothing
changes, or it continues it and is accepted. -/
inductive Answers (accepted : List ResponseMessage) (collector : Collector) (message : Message) :
    Except Error Bool × Collector → Prop
  | refused (error : Error) (discontinues : Discontinues accepted message) :
      Answers accepted collector message (.error error, collector)
  | taken {carried : ResponseMessage} {next : Collector}
      (continues : ¬Discontinues accepted message)
      (read : ResponseMessage.ofMessage message = .ok carried)
      (ends : next.complete = true ↔ ∃ part, carried = .chunk part ∧ part.moreContent = false)
      (holds : Holds (accepted ++ [carried]) next) :
      Answers accepted collector message (.ok next.complete, next)

variable {accepted : List ResponseMessage} {collector : Collector} {message : Message}

/-- Nothing was accepted: only a start is. -/
theorem answers_nothing (message : Message) :
    Answers [] {} message (offer {} message) := by
  rw [offer_eq, push]
  cases read : ResponseMessage.ofMessage message with
  | error error => exact .refused _ (.unreadable read)
  | ok carried =>
      cases carried with
      | chunk part => exact .refused _ (.withoutStart read fun _ => List.not_mem_nil)
      | start head =>
          refine .taken ?_ read ?_ (@Holds.started head [] (by simp))
          · rintro (⟨⟨⟩, _⟩ | ⟨unread⟩ | ⟨_, ⟨⟩⟩ | ⟨isChunk, _⟩)
            · rw [read] at unread
              cases unread
            · rw [read] at isChunk
              cases isChunk
          · simp

/-- A start and some chunks were accepted: another chunk is, and ends the response or does not. -/
theorem answers_started (head : ResponseStart) {chunks : List ResponseChunk}
    (more : ∀ chunk ∈ chunks, chunk.moreContent = true) (message : Message) :
    Answers (.start head :: chunks.map .chunk) ⟨some head, contents chunks, false⟩ message
      (offer ⟨some head, contents chunks, false⟩ message) := by
  rw [offer_eq, push]
  cases read : ResponseMessage.ofMessage message with
  | error error => exact .refused _ (.unreadable read)
  | ok carried =>
      cases carried with
      | start other => exact .refused _ (.secondStart read List.mem_cons_self)
      | chunk part =>
          have continues : ¬Discontinues (.start head :: chunks.map .chunk) message := by
            rintro (⟨mem, last⟩ | ⟨unread⟩ | ⟨isStart, _⟩ | ⟨_, none⟩)
            · rw [more _ (by simpa using mem)] at last
              cases last
            · rw [read] at unread
              cases unread
            · rw [read] at isStart
              cases isStart
            · exact none head List.mem_cons_self
          refine .taken continues read (by simp) ?_
          have frames : ResponseMessage.start head :: chunks.map .chunk ++ [.chunk part] =
              .start head :: (chunks ++ [part]).map .chunk := by simp
          rw [frames, ← contents_concat]
          rcases part with ⟨content, moreContent⟩
          cases moreContent with
          | true =>
              apply Holds.started
              intro chunk mem
              rcases List.mem_append.mp mem with old | new
              · exact more chunk old
              · rw [List.mem_singleton.mp new]
          | false => exact .whole head (Ended.of_concat more content)

/-- The response is complete: nothing is accepted any more. -/
theorem answers_whole (head : ResponseStart) {chunks : List ResponseChunk} (ended : Ended chunks)
    (message : Message) :
    Answers (.start head :: chunks.map .chunk) ⟨some head, contents chunks, true⟩ message
      (offer ⟨some head, contents chunks, true⟩ message) := by
  rcases ended.exists_last with ⟨part, mem, last⟩
  rw [offer_eq]
  exact .refused _ (.complete (by simpa using mem) last)

theorem Holds.answers (holds : Holds accepted collector) (message : Message) :
    Answers accepted collector message (collector.offer message) := by
  cases holds with
  | nothing => exact answers_nothing message
  | started head more => exact answers_started head more message
  | whole head ended => exact answers_whole head ended message

/-! ## Finishing -/

theorem finish_eq_ok_iff {response : Response} :
    collector.finish = .ok response ↔
      ∃ head, ∃ valid : 100 ≤ head.status ∧ head.status ≤ 999,
        collector.start = some head ∧ collector.complete = true ∧
          response = .ofHeaders ⟨head.status, valid⟩ head.headers (.full collector.body) := by
  rcases collector with ⟨start, body, complete⟩
  rcases start with _ | head
  · simp [finish]
  · cases complete with
    | false => simp [finish]
    | true =>
        by_cases valid : 100 ≤ head.status ∧ head.status ≤ 999
        · simp [finish, statusOf, Status.ofCode?, valid, eq_comm]
        · simp [finish, statusOf, Status.ofCode?, valid]

theorem chunks_of_framed {first second : ResponseStart} {chunks others : List ResponseChunk}
    (framed : ResponseMessage.start first :: chunks.map .chunk =
      .start second :: others.map .chunk) : chunks = others := by
  have carried := congrArg chunksOf framed
  rwa [chunksOf_start_chunks, chunksOf_start_chunks] at carried

/-- A collector finishes if what it has accepted is a start with a valid status and chunks that
end. -/
theorem Holds.finish_iff (holds : Holds accepted collector) {response : Response} :
    collector.finish = .ok response ↔
      ∃ head chunks, ∃ valid : 100 ≤ head.status ∧ head.status ≤ 999,
        accepted = .start head :: chunks.map .chunk ∧ Ended chunks ∧
          response = .ofHeaders ⟨head.status, valid⟩ head.headers (.full (contents chunks)) := by
  rw [finish_eq_ok_iff]
  constructor
  · rintro ⟨head, valid, start, complete, rfl⟩
    cases holds with
    | nothing => cases start
    | started => cases complete
    | whole _ ended =>
        cases start
        exact ⟨head, _, valid, rfl, ended, rfl⟩
  · rintro ⟨head, chunks, valid, framed, ended, rfl⟩
    cases holds with
    | nothing => cases framed
    | started _ more =>
        rw [chunks_of_framed framed] at more
        rcases ended.exists_last with ⟨part, mem, last⟩
        rw [more part mem] at last
        cases last
    | whole other _ =>
        cases chunks_of_framed framed
        cases framed
        exact ⟨head, valid, rfl, rfl, rfl⟩

end Collector

/-! ## All messages -/

namespace Intake

variable {intake : Intake} {message : Message}

theorem offer_of_refused {error : Error}
    (refused : intake.collector.offer message = (.error error, intake.collector)) :
    intake.offer message = { intake with answers := intake.answers ++ [.error error] } := by
  simp [offer, refused]

theorem offer_of_taken {done : Bool} {next : Collector} {carried : ResponseMessage}
    (taken : intake.collector.offer message = (.ok done, next))
    (read : ResponseMessage.ofMessage message = .ok carried) :
    intake.offer message =
      ⟨next, intake.answers ++ [.ok done], intake.accepted ++ [carried]⟩ := by
  simp [offer, taken, read]

theorem holds_offer (holds : Collector.Holds intake.accepted intake.collector)
    (message : Message) :
    Collector.Holds (intake.offer message).accepted (intake.offer message).collector := by
  have answers := holds.answers message
  generalize answered : intake.collector.offer message = answer at answers
  cases answers with
  | refused error _ =>
      rw [offer_of_refused answered]
      exact holds
  | taken _ read _ next =>
      rw [offer_of_taken answered read]
      exact next

theorem holds_offerAll (holds : Collector.Holds intake.accepted intake.collector)
    (messages : List Message) :
    Collector.Holds (intake.offerAll messages).accepted (intake.offerAll messages).collector := by
  induction messages generalizing intake with
  | nil => exact holds
  | cons message rest ih => exact ih (holds_offer holds message)

theorem ofMessages_append (messages later : List Message) :
    ofMessages (messages ++ later) = (ofMessages messages).offerAll later :=
  List.foldl_append

/-- What was answered before has no bearing on what is answered later. -/
theorem exists_answers (intake : Intake) (messages : List Message) :
    ∃ answers, ∀ before, offerAll { intake with answers := before } messages =
      { intake.offerAll messages with answers := before ++ answers } := by
  induction messages generalizing intake with
  | nil =>
      refine ⟨[], ?_⟩
      intro before
      simp [offerAll]
  | cons message rest ih =>
      rcases ih (intake.offer message) with ⟨answers, later⟩
      refine ⟨(intake.collector.offer message).1 :: answers, ?_⟩
      intro before
      have rest := later (before ++ [(intake.collector.offer message).1])
      rw [List.append_assoc, List.singleton_append] at rest
      exact rest

/-- A message that is refused is answered by an error, and nothing else is different later. -/
theorem offerAll_of_refused {error : Error}
    (refused : intake.collector.offer message = (.error error, intake.collector))
    (later : List Message) :
    ∃ answers, (intake.offerAll later).answers = intake.answers ++ answers ∧
      intake.offerAll (message :: later) =
        { intake.offerAll later with answers := intake.answers ++ .error error :: answers } := by
  rcases intake.exists_answers later with ⟨answers, same⟩
  refine ⟨answers, ?_, ?_⟩
  · exact congrArg Intake.answers (same intake.answers)
  · have behind := same (intake.answers ++ [.error error])
    rw [List.append_assoc, List.singleton_append] at behind
    rw [← behind, ← offer_of_refused refused]
    rfl

end Intake

/-! ## Main result -/

/-- A collector accepts what continues a framed response, and nothing else. What it refuses leaves it
as it was, so that all later answers are those that it would have given otherwise. It answers that
the response is complete at the chunk that ends it, and it finishes if it has accepted a start with
a valid status and chunks that end, with what they carry as the body. -/
theorem Collector.accepts_exactly_framings (messages : List Message) :
    let intake := Intake.ofMessages messages
    (∀ message,
      ((∃ error, (intake.collector.offer message).1 = .error error) ↔
        Discontinues intake.accepted message) ∧
      (Discontinues intake.accepted message →
        (intake.collector.offer message).2 = intake.collector ∧
        ∀ later, ∃ error answers,
          (Intake.ofMessages (messages ++ later)).answers = intake.answers ++ answers ∧
          Intake.ofMessages (messages ++ message :: later) =
            { Intake.ofMessages (messages ++ later) with
              answers := intake.answers ++ .error error :: answers }) ∧
      ((intake.collector.offer message).1 = .ok true ↔
        ¬Discontinues intake.accepted message ∧
          ∃ part, ResponseMessage.ofMessage message = .ok (.chunk part) ∧
            part.moreContent = false)) ∧
    ∀ response, intake.collector.finish = .ok response ↔
      ∃ head chunks, ∃ valid : 100 ≤ head.status ∧ head.status ≤ 999,
        intake.accepted = .start head :: chunks.map .chunk ∧ Ended chunks ∧
          response = .ofHeaders ⟨head.status, valid⟩ head.headers (.full (contents chunks)) := by
  intro intake
  have holds : Holds intake.accepted intake.collector :=
    Intake.holds_offerAll .nothing messages
  refine ⟨?_, fun response => holds.finish_iff⟩
  intro message
  have answers := holds.answers message
  generalize answered : intake.collector.offer message = answer at answers
  cases answers with
  | refused error discontinues =>
      refine ⟨iff_of_true ⟨error, rfl⟩ discontinues, ?_, ?_⟩
      · intro _
        refine ⟨rfl, ?_⟩
        intro later
        rw [Intake.ofMessages_append, Intake.ofMessages_append]
        exact ⟨error, Intake.offerAll_of_refused answered later⟩
      · exact iff_of_false nofun fun taken => taken.1 discontinues
  | taken continues read ends _ =>
      refine ⟨iff_of_false nofun continues, fun discontinues => absurd discontinues continues, ?_⟩
      rw [Except.ok.injEq, ends, read]
      simp [continues]

/-- An early chunk and a second start are refused, and the response is complete all the same. -/
example :
    (Intake.ofMessages
      [(ResponseMessage.chunk .last).toMessage, (ResponseMessage.start ⟨200, []⟩).toMessage,
        (ResponseMessage.start ⟨404, []⟩).toMessage, (ResponseMessage.chunk .last).toMessage]
      ).accepted = [.start ⟨200, []⟩, .chunk .last] := by cbv

end Courier.Http
