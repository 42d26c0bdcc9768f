import Courier.Proofs.Http.Transfer
import Courier.Site

/-!
# Sites make moves

A site performs the actions of a program one after another up to its next pause. Where no send is
made to fail, this is one of the ways in which the steps of a sender can be made: the sender is left
alone until it pauses or has come to its end. So what holds of a response in transfer, in whatever
order its sender and its reader make their steps, holds of the programs that a site runs.
-/

namespace Courier

namespace Program

variable {α β : Type}

/-- A program that only sends, pauses and writes to the log. -/
inductive Plain : Program α → Prop
  | done (value : α) : Plain (.done value)
  | send (channel : String) (message : Message)
      {next : (Action.send channel message).Answer → Program α}
      (plain : ∀ answer, Plain (next answer)) : Plain (.perform (.send channel message) next)
  | pause (duration : Duration) {next : (Action.pause duration).Answer → Program α}
      (plain : ∀ answer, Plain (next answer)) : Plain (.perform (.pause duration) next)
  | report (entry : LogEntry) {next : (Action.report entry).Answer → Program α}
      (plain : ∀ answer, Plain (next answer)) : Plain (.perform (.report entry) next)

theorem Plain.bind {program : Program α} {next : α → Program β} (plain : Plain program)
    (nextPlain : ∀ value, Plain (next value)) : Plain (program.bind next) := by
  induction plain with
  | done value => exact nextPlain value
  | send channel message _ ih => exact Plain.send channel message ih
  | pause duration _ ih => exact Plain.pause duration ih
  | report entry _ ih => exact Plain.report entry ih

/-- What a site leaves of a plain program for after a pause is plain. -/
theorem Plain.of_paused {program rest : Program α} (plain : Plain program) {site : Site}
    {now wakeAt : Instant} (paused : (site.run now program).1 = .paused wakeAt rest) :
    Plain rest := by
  induction plain generalizing site with
  | done value => cases paused
  | send channel message _ ih => exact ih _ paused
  | pause duration plain _ =>
      cases paused
      exact plain ()
  | report entry _ ih => exact ih _ paused

end Program

/-- A backend in which no send is made to fail sends as its store does. -/
theorem Backend.send_of_reliable {backend : Backend} (reliable : backend.failingSends = [])
    (now : Instant) (channel : String) (message : Message) :
    backend.send now channel message =
      ((backend.store.send now channel message).1,
        { backend with
          sends := backend.sends + 1
          store := (backend.store.send now channel message).2 }) := by
  rcases backend with ⟨label, store, failing, failingReceives, sends, receives⟩
  change failing = [] at reliable
  subst reliable
  rfl

namespace Http

/-! ## Sending is plain -/

theorem plain_sendRetrying (settings : HttpSettings) (channel : String) (message : Message)
    (attempt retries : Nat) :
    (sendRetrying settings channel message attempt retries).Plain := by
  induction retries generalizing attempt with
  | zero => exact Program.Plain.send channel message Program.Plain.done
  | succ retries ih =>
      apply Program.Plain.send
      intro answer
      change Except ChannelError Unit at answer
      match answer with
      | .error (.channelFull full) => exact Program.Plain.pause _ fun _ => ih (attempt + 1)
      | .ok _ | .error (.backendUnavailable _) | .error (.duplicateConsumer _)
      | .error (.malformedMessage _) | .error (.unknownBackend _) | .error (.configuration _)
      | .error (.serialization _) => exact Program.Plain.done _

theorem plain_sendPatiently (settings : HttpSettings) (channel : String) (message : Message) :
    (sendPatiently settings channel message).Plain :=
  plain_sendRetrying settings channel message 0 settings.sendRetries

theorem plain_interrupt (settings : HttpSettings) (channel : String) (source : ChannelError) :
    (interrupt settings channel source).Plain := by
  apply (plain_sendPatiently settings channel _).bind
  intro result
  cases result with
  | ok _ => exact Program.Plain.done _
  | error _ => exact Program.Plain.report _ fun _ => Program.Plain.done _

theorem plain_sendRest (settings : HttpSettings) (channel : String) (messages : List Message) :
    (sendRest settings channel messages).Plain := by
  induction messages with
  | nil => exact Program.Plain.done _
  | cons message rest ih =>
      apply (plain_sendPatiently settings channel message).bind
      intro result
      cases result with
      | ok _ => exact ih
      | error source =>
          exact (plain_interrupt settings channel source).bind fun _ => Program.Plain.done _

theorem plain_sendResponse (settings : HttpSettings) (channel : String) (response : Response) :
    (sendResponse settings channel response).Plain := by
  apply (plain_sendPatiently settings channel _).bind
  intro result
  cases result with
  | ok _ => exact plain_sendRest settings channel _
  | error _ => exact Program.Plain.done _

/-! ## Runs of a site -/

/-- A sender where a site has left it. -/
def Sender.ofProgress : Site.Progress (Except Error Unit) → Sender
  | .finished result => .ready (.done result)
  | .paused wakeAt rest => .pausing wakeAt rest

namespace Transfer

/-- Moves of the sender alone lead from a transfer to another one, of which the sender and the store
are given and the rest is the same, except for what was performed. -/
def SendsTo (channel : String) (transfer : Transfer) (sender : Sender) (store : Store) : Prop :=
  ∃ count trace, transfer.run channel (List.replicate count .send) =
    { transfer with sender, store, trace }

namespace SendsTo

variable {channel : String} {transfer : Transfer} {sender : Sender} {store : Store}

theorem stay (channel : String) (transfer : Transfer) :
    SendsTo channel transfer transfer.sender transfer.store :=
  ⟨0, transfer.trace, rfl⟩

/-- A move in front of others. -/
theorem behind {next : Sender} {between : Store} {performed : Trace}
    (step : transfer.sender.step transfer.now transfer.store = (next, between, performed))
    (later : ∀ trace, SendsTo channel { transfer with sender := next, store := between, trace }
      sender store) : SendsTo channel transfer sender store := by
  rcases later (transfer.trace ++ performed) with ⟨count, trace, moved⟩
  refine ⟨count + 1, trace, ?_⟩
  rw [List.replicate_succ, run, List.foldl_cons, move, step]
  exact moved

/-- An accepted message is put into its queue and announced in two moves; a refused one takes one
move. -/
theorem send {target : String} {message : Message}
    {next : (Action.send target message).Answer → Program (Except Error Unit)}
    (ready : transfer.sender = .ready (.perform (.send target message) next))
    (later : ∀ trace, SendsTo channel
      { transfer with
        sender := .ready (next (transfer.store.send transfer.now target message).1)
        store := (transfer.store.send transfer.now target message).2
        trace } sender store) : SendsTo channel transfer sender store := by
  have step : transfer.sender.step transfer.now transfer.store =
      (.behind (transfer.store.push transfer.now target message).1
          (next (transfer.store.push transfer.now target message).1),
        (transfer.store.push transfer.now target message).2,
        [⟨.send target message, (transfer.store.push transfer.now target message).1⟩]) := by
    rw [ready]
    rfl
  apply behind step
  intro trace
  simp only [Store.send] at later
  generalize transfer.store.push transfer.now target message = pushed at later ⊢
  rcases pushed with ⟨result, between⟩
  cases result with
  | error error => exact later trace
  | ok done =>
      have announced : (Sender.announcing (next (.ok done))).step transfer.now between =
          (.ready (next (.ok done)), between.announce, []) := rfl
      exact behind announced later

theorem pause {duration : Duration}
    {next : (Action.pause duration).Answer → Program (Except Error Unit)}
    (ready : transfer.sender = .ready (.perform (.pause duration) next)) :
    SendsTo channel transfer (.pausing (transfer.now + duration) (next ())) transfer.store := by
  have step : transfer.sender.step transfer.now transfer.store =
      (.pausing (transfer.now + duration) (next ()), transfer.store,
        [⟨.pause duration, ()⟩]) := by
    rw [ready]
    rfl
  apply behind step
  intro trace
  exact stay channel _

theorem report {entry : LogEntry}
    {next : (Action.report entry).Answer → Program (Except Error Unit)}
    (ready : transfer.sender = .ready (.perform (.report entry) next))
    (later : ∀ trace, SendsTo channel { transfer with sender := .ready (next ()), trace }
      sender store) : SendsTo channel transfer sender store := by
  have step : transfer.sender.step transfer.now transfer.store =
      (.ready (next ()), transfer.store, [⟨.report entry, ()⟩]) := by
    rw [ready]
    rfl
  exact behind step later

end SendsTo

/-- What a site makes of a plain program is made by moves of the sender. -/
theorem sendsTo_of_run (channel : String) {program : Program (Except Error Unit)}
    (plain : program.Plain) (transfer : Transfer) (ready : transfer.sender = .ready program)
    (site : Site) (reliable : site.backend.failingSends = [])
    (shared : site.backend.store = transfer.store) :
    SendsTo channel transfer (Sender.ofProgress (site.run transfer.now program).1)
      (site.run transfer.now program).2.backend.store := by
  induction plain generalizing transfer site with
  | done value =>
      change SendsTo channel transfer (.ready (.done value)) site.backend.store
      rw [shared, ← ready]
      exact SendsTo.stay channel transfer
  | @send target message next _ ih =>
      have ran : site.run transfer.now (.perform (.send target message) next) =
          { site with backend := (site.backend.send transfer.now target message).2 }.run
            transfer.now (next (site.backend.send transfer.now target message).1) := rfl
      rw [ran, Backend.send_of_reliable reliable, shared]
      apply SendsTo.send ready
      intro trace
      exact ih _ { transfer with
        sender := .ready (next (transfer.store.send transfer.now target message).1)
        store := (transfer.store.send transfer.now target message).2
        trace } rfl _ reliable rfl
  | pause duration _ _ =>
      rw [Site.run, shared]
      exact SendsTo.pause ready
  | @report entry next _ ih =>
      have ran : site.run transfer.now (.perform (.report entry) next) =
          (site.report entry).run transfer.now (next ()) := rfl
      rw [ran]
      apply SendsTo.report ready
      intro trace
      exact ih () { transfer with sender := .ready (next ()), trace } rfl (site.report entry)
        reliable shared

/-- What a site makes of a plain program whose pause is over is made by moves of the sender. -/
theorem sendsTo_of_wake (channel : String) {wakeAt : Instant}
    {rest : Program (Except Error Unit)} (plain : rest.Plain) (transfer : Transfer)
    (pausing : transfer.sender = .pausing wakeAt rest) (past : wakeAt ≤ transfer.now) (site : Site)
    (reliable : site.backend.failingSends = [])
    (shared : site.backend.store = transfer.store) :
    SendsTo channel transfer (Sender.ofProgress (site.run transfer.now rest).1)
      (site.run transfer.now rest).2.backend.store := by
  have step : transfer.sender.step transfer.now transfer.store =
      (.ready rest, transfer.store, []) := by
    rw [pausing, Sender.step, if_pos past]
  apply SendsTo.behind step
  intro trace
  exact sendsTo_of_run channel plain { transfer with sender := .ready rest, trace } rfl site
    reliable shared

/-- A site that starts to send a response makes moves of its sender, and what it leaves for after a
pause is plain again. -/
theorem sendsTo_of_run_sendResponse (settings : HttpSettings) (storeSettings : StoreSettings)
    (channel : String) (response : Response) (now : Instant) (site : Site)
    (reliable : site.backend.failingSends = [])
    (fresh : site.backend.store = { settings := storeSettings }) :
    let progress := (site.run now (sendResponse settings channel response)).1
    SendsTo channel (.start settings storeSettings channel response now)
        (Sender.ofProgress progress)
        (site.run now (sendResponse settings channel response)).2.backend.store ∧
      ∀ wakeAt rest, progress = .paused wakeAt rest → rest.Plain := by
  have plain := plain_sendResponse settings channel response
  refine ⟨sendsTo_of_run channel plain _ rfl site reliable fresh, ?_⟩
  intro wakeAt rest paused
  exact plain.of_paused paused

end Transfer

end Http

end Courier
