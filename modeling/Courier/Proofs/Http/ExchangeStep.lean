import Courier.Proofs.Http.NextReply
import Courier.Proofs.Http.Stage

/-!
# Steps of an exchange

An exchange that is not over is moved on by its reading, and one that is over stays as it is. Each
step moves the exchange through the stages of a reply and may leave something in the log: warnings
for the pairs of a start that stand for no header, and one more where the body breaks off.
-/

namespace Courier.Http

namespace Exchange

/-- What a step of an exchange reads. -/
def brought? (exchange : Exchange) (site : Site) (now : Instant) : Option Message :=
  exchange.reading?.bind fun reading =>
    (reading.step site.backend now exchange.replyChannel).1.message?

variable {exchange : Exchange}

theorem step_of_reading {reading : Reading} (reads : exchange.reading? = some reading)
    (site : Site) (now : Instant) :
    exchange.step site now =
      ({ exchange with
          state :=
            (exchange.accept now
              (reading.step site.backend now exchange.replyChannel).1).1 },
        { site with backend := (reading.step site.backend now exchange.replyChannel).2 }.reportAll
          (exchange.accept now (reading.step site.backend now exchange.replyChannel).1).2) := by
  rw [step, reads]

theorem brought?_of_reading {reading : Reading} (reads : exchange.reading? = some reading)
    (site : Site) (now : Instant) :
    exchange.brought? site now =
      (reading.step site.backend now exchange.replyChannel).1.message? := by
  rw [brought?, reads]
  rfl

theorem step_of_over (isOver : exchange.reading? = none) (site : Site) (now : Instant) :
    exchange.step site now = (exchange, site) ∧ exchange.brought? site now = none := by
  rw [step, brought?, isOver]
  exact ⟨rfl, rfl⟩

/-! ## States and stages -/

theorem stage_of_result? {result : Except Error NativeResponse}
    (ended : exchange.result? = some result) : exchange.state.stage = .finished result := by
  rcases exchange with ⟨settings, channel, state⟩
  cases state with
  | awaitingHead reading => cases ended
  | readingBody head body reading => cases ended
  | answered response =>
      cases ended
      rfl
  | failed error =>
      cases ended
      rfl

theorem result?_of_stage {result : Except Error NativeResponse}
    (stage : exchange.state.stage = .finished result) : exchange.result? = some result := by
  rcases exchange with ⟨settings, channel, state⟩
  cases state with
  | awaitingHead reading => cases stage
  | readingBody head body reading => cases stage
  | answered response =>
      cases stage
      rfl
  | failed error =>
      cases stage
      rfl

theorem over_or_reads (exchange : Exchange) :
    (∃ result, exchange.state.stage = .finished result ∧ exchange.reading? = none) ∨
      ∃ reading, exchange.reading? = some reading ∧
        ∀ result, exchange.state.stage ≠ .finished result := by
  rcases exchange with ⟨settings, channel, state⟩
  cases state with
  | awaitingHead reading => exact Or.inr ⟨reading, rfl, nofun⟩
  | readingBody head body reading => exact Or.inr ⟨reading, rfl, nofun⟩
  | answered response => exact Or.inl ⟨_, rfl, rfl⟩
  | failed error => exact Or.inl ⟨_, rfl, rfl⟩

theorem not_over_of_reading {reading : Reading} (reads : exchange.reading? = some reading)
    (result : Except Error NativeResponse) : exchange.state.stage ≠ .finished result := by
  rcases exchange.over_or_reads with ⟨_, -, isOver⟩ | ⟨_, -, notOver⟩
  · rw [isOver] at reads
    cases reads
  · exact notOver result

/-! ## What a step reads next -/

/-- Behind a message an exchange is over or begins to read the next one. -/
theorem reading?_accept_message (now : Instant) (message : Message) {next : Reading}
    (reads : ({ exchange with state := (exchange.accept now (.message message)).1 } :
      Exchange).reading? = some next) {reading : Reading}
    (before : exchange.reading? = some reading) :
    next = nextReading exchange.settings now := by
  rcases exchange with ⟨settings, channel, state⟩
  cases state with
  | answered response => cases before
  | failed error => cases before
  | awaitingHead reading =>
      simp only [accept, acceptHead] at reads
      split at reads
      · cases reads
      · cases reads
      · split at reads
        · cases reads
        · cases reads
          rfl
  | readingBody head body reading =>
      simp only [accept, acceptBody] at reads
      split at reads
      · cases reads
      · cases reads
      · split at reads
        · cases reads
          rfl
        · cases reads

theorem reading?_accept_reading (now : Instant) (next : Reading) {reading : Reading}
    (before : exchange.reading? = some reading) :
    ({ exchange with state := (exchange.accept now (.reading next)).1 } : Exchange).reading? =
      some next := by
  rcases exchange with ⟨settings, channel, state⟩
  cases state with
  | answered response => cases before
  | failed error => cases before
  | awaitingHead reading => rfl
  | readingBody head body reading => rfl

/-! ## The log -/

/-- The warnings that the first message of a reply leaves. -/
def headEntries : List Message → List LogEntry
  | [] => []
  | first :: _ =>
      match ResponseMessage.ofMessage first with
      | .ok (.start start) =>
          match Collector.statusOf start.status with
          | .ok _ => (clientHeaders start.headers).2
          | .error _ => []
      | _ => []

/-- A stage at which the body has broken off. -/
def Broken (stage : Stage) : Prop :=
  ∃ response, stage = .finished (.ok response) ∧ response.broken = true

theorem not_broken_awaiting : ¬Broken .awaiting := by
  rintro ⟨response, impossible, -⟩
  cases impossible

theorem not_broken_body (head : Head) (content : List UInt8) : ¬Broken (.body head content) := by
  rintro ⟨response, impossible, -⟩
  cases impossible

theorem not_broken_of_error (error : Error) : ¬Broken (.finished (.error error)) := by
  rintro ⟨response, impossible, -⟩
  cases impossible

theorem not_broken_of_unbroken {response : NativeResponse} (whole : response.broken = false) :
    ¬Broken (.finished (.ok response)) := by
  rintro ⟨other, same, broken⟩
  cases same
  rw [whole] at broken
  cases broken

/-- In front of the head only a start leaves something in the log. -/
theorem entries_of_awaiting (awaiting : exchange.state.stage = .awaiting) (now : Instant)
    (read : Read) :
    (exchange.accept now read).2 = headEntries read.message?.toList ∧
      ¬Broken (exchange.accept now read).1.stage := by
  rcases exchange with ⟨settings, channel, state⟩
  cases state with
  | answered response => cases awaiting
  | failed error => cases awaiting
  | readingBody head body reading => cases awaiting
  | awaitingHead reading =>
      cases read with
      | reading next => exact ⟨rfl, not_broken_awaiting⟩
      | failed error => exact ⟨rfl, not_broken_of_error error⟩
      | message message =>
          change (acceptHead _ now message).2 = headEntries [message] ∧
            ¬Broken (acceptHead _ now message).1.stage
          rw [acceptHead, headEntries]
          cases ResponseMessage.ofMessage message with
          | error error => exact ⟨rfl, not_broken_of_error _⟩
          | ok carried =>
              cases carried with
              | chunk chunk => exact ⟨rfl, not_broken_of_error _⟩
              | start start =>
                  dsimp only
                  cases Collector.statusOf start.status with
                  | error error => exact ⟨rfl, not_broken_of_error error⟩
                  | ok status => exact ⟨rfl, not_broken_body _ _⟩

/-- An entry tells that the body has broken off, and there is none if it has not. -/
def TellsBreak (entries : List LogEntry) (stage : Stage) : Prop :=
  (entries = [] ∧ ¬Broken stage) ∨ (entries.length = 1 ∧ Broken stage)

/-- Behind the head only a body that breaks off leaves something in the log. -/
theorem entries_of_body {head : Head} {content : List UInt8}
    (body : exchange.state.stage = .body head content) (now : Instant) (read : Read) :
    TellsBreak (exchange.accept now read).2 (exchange.accept now read).1.stage := by
  rcases exchange with ⟨settings, channel, state⟩
  cases state with
  | answered response => cases body
  | failed error => cases body
  | awaitingHead reading => cases body
  | readingBody head body reading =>
      cases read with
      | reading next => exact Or.inl ⟨rfl, not_broken_body _ _⟩
      | failed error => exact Or.inr ⟨rfl, _, rfl, rfl⟩
      | message message =>
          simp only [accept, acceptBody]
          split
          · exact Or.inr ⟨rfl, _, rfl, rfl⟩
          · exact Or.inr ⟨rfl, _, rfl, rfl⟩
          · split
            · exact Or.inl ⟨rfl, not_broken_body _ _⟩
            · exact Or.inl ⟨rfl, not_broken_of_unbroken rfl⟩

/-- What an exchange has logged by some stage on top of an earlier log. -/
def Logged (log : List LogEntry) (read : List Message) (stage : Stage) (after : List LogEntry) :
    Prop :=
  ∃ endings, after = endings ++ (headEntries read).reverse ++ log ∧ TellsBreak endings stage

theorem headEntries_append {front : List Message} (some : front ≠ []) (rest : List Message) :
    headEntries (front ++ rest) = headEntries front := by
  cases front with
  | nil => exact absurd rfl some
  | cons first others => rfl

theorem nil_of_awaiting {read : List Message}
    (awaiting : Stage.awaiting.takeAll read = .awaiting) : read = [] := by
  rcases List.eq_nil_or_concat read with rfl | ⟨front, last, rfl⟩
  · rfl
  · rw [List.concat_eq_append, Stage.takeAll_snoc] at awaiting
    exact absurd awaiting (Stage.take_ne_awaiting _ last)

theorem Logged.accept {log before : List LogEntry} {read : List Message} {reading : Reading}
    (logged : Logged log read exchange.state.stage before)
    (stage : exchange.state.stage = Stage.awaiting.takeAll read)
    (reads : exchange.reading? = some reading) (now : Instant) (next : Read) :
    Logged log (read ++ next.message?.toList) (exchange.accept now next).1.stage
      ((exchange.accept now next).2.reverse ++ before) := by
  have notOver := not_over_of_reading reads
  rcases logged with ⟨endings, rfl, ⟨none, -⟩ | ⟨-, response, broken, -⟩⟩
  · subst none
    cases at_ : exchange.state.stage with
    | finished result => exact absurd at_ (notOver result)
    | awaiting =>
        -- nothing was read yet, so what is read now is the first message
        rcases entries_of_awaiting at_ now next with ⟨entries, whole⟩
        have nothing := nil_of_awaiting (stage.symm.trans at_)
        subst nothing
        exact ⟨[], by rw [entries]; rfl, Or.inl ⟨rfl, whole⟩⟩
    | body head content =>
        have something : read ≠ [] := by
          rintro rfl
          rw [at_] at stage
          cases stage
        refine ⟨(exchange.accept now next).2.reverse, ?_, ?_⟩
        · rw [headEntries_append something, List.nil_append, List.append_assoc]
        · rw [TellsBreak, List.reverse_eq_nil_iff, List.length_reverse]
          exact entries_of_body at_ now next
  · exact absurd broken (notOver _)

end Exchange

end Courier.Http
