import Courier.Program

/-!
# Traces of programs

A trace is the list of the actions that a program has performed, each with its answer. `Run` says
that a program performs a trace and then is some other program; a run that ends is a run to a
`done`. What is proved of every run holds whoever answers the actions.

An environment answers every action from what was done before, and a program always comes to an end
in it. A script of answers to the attempts to send is an environment.
-/

namespace Courier

/-- An action that was performed, with its answer. -/
structure Performed where
  action : Action
  answer : action.Answer

/-- An attempt to send a message, with its result. -/
structure Attempt where
  channel : String
  message : Message
  result : Except ChannelError Unit

namespace Attempt

/-- The message, if it was accepted on a channel. -/
def accepted? (channel : String) (attempt : Attempt) : Option Message :=
  match attempt.result with
  | .ok () => if attempt.channel = channel then some attempt.message else none
  | .error _ => none

end Attempt

namespace Performed

/-- The attempt to send that an action was. -/
def attempt? : Performed → Option Attempt
  | ⟨.send channel message, result⟩ => some ⟨channel, message, result⟩
  | _ => none

/-- The entry that an action wrote to the log. -/
def entry? : Performed → Option LogEntry
  | ⟨.report entry, _⟩ => some entry
  | _ => none

end Performed

/-- The actions that a program has performed, the first one in front. -/
abbrev Trace := List Performed

namespace Trace

/-- The attempts to send. -/
def attempts (trace : Trace) : List Attempt := trace.filterMap Performed.attempt?

/-- The messages that were accepted on a channel. -/
def accepted (channel : String) (trace : Trace) : List Message :=
  trace.attempts.filterMap (Attempt.accepted? channel)

/-- The entries that were written to the log. -/
def entries (trace : Trace) : List LogEntry := trace.filterMap Performed.entry?

@[simp]
theorem attempts_append (first second : Trace) :
    attempts (first ++ second) = first.attempts ++ second.attempts :=
  List.filterMap_append

@[simp]
theorem accepted_append (channel : String) (first second : Trace) :
    accepted channel (first ++ second) = first.accepted channel ++ second.accepted channel := by
  simp [accepted]

theorem accepted_send_ok (channel target : String) (message : Message) :
    accepted channel [⟨.send target message, (.ok () : Except ChannelError Unit)⟩] =
      if target = channel then [message] else [] := by
  by_cases same : target = channel
  · simp [accepted, attempts, Performed.attempt?, Attempt.accepted?, same]
  · simp [accepted, attempts, Performed.attempt?, Attempt.accepted?, same]

theorem accepted_send_error (channel target : String) (message : Message) (error : ChannelError) :
    accepted channel [⟨.send target message, (.error error : Except ChannelError Unit)⟩] = [] :=
  rfl

@[simp]
theorem entries_append (first second : Trace) :
    entries (first ++ second) = first.entries ++ second.entries :=
  List.filterMap_append

end Trace

/-- Answers every action from what was done before. -/
abbrev Environment := Trace → (action : Action) → action.Answer

/-- The environment that answers the attempts to send by a script, has nothing in store and gives
every key once. -/
def Environment.ofScript (script : Nat → Except ChannelError Unit) : Environment :=
  fun past action =>
    match action with
    | .send _ _ => script past.attempts.length
    | .members _ => ([] : List String)
    | .pause _ | .report _ | .record _ _ => ()
    | .loadSession _ => (none : Option SessionData)
    | .saveSession _ _ => (.ok () : Except ChannelError Unit)
    | .freshKey => toString past.length

namespace Program

variable {α β : Type}

/-- A program performs a trace and then is another program. -/
inductive Run : Program α → Trace → Program α → Prop
  | stop (program : Program α) : Run program [] program
  | act {action : Action} {next : action.Answer → Program α} (answer : action.Answer)
      {trace : Trace} {after : Program α} (rest : Run (next answer) trace after) :
      Run (.perform action next) (⟨action, answer⟩ :: trace) after

/-- Plays a program in an environment: what it performs, and its result. -/
def play (environment : Environment) (past : Trace) : Program α → Trace × α
  | .done value => ([], value)
  | .perform action next =>
      let performed : Performed := ⟨action, environment past action⟩
      let (trace, value) := play environment (past ++ [performed]) (next performed.answer)
      (performed :: trace, value)

theorem run_play (environment : Environment) (past : Trace) (program : Program α) :
    Run program (program.play environment past).1 (.done (program.play environment past).2) := by
  induction program generalizing past with
  | done value => exact Run.stop _
  | perform action next ih => exact Run.act _ (ih _ _)

/-- To play two programs is to play the first one, and then the second one behind it. -/
theorem play_bind (environment : Environment) (past : Trace) (program : Program α)
    (next : α → Program β) :
    (program.bind next).play environment past =
      let first := program.play environment past
      let second := (next first.2).play environment (past ++ first.1)
      (first.1 ++ second.1, second.2) := by
  induction program generalizing past with
  | done value => simp [bind, play]
  | perform action rest ih => simp [bind, play, ih]

namespace Run

theorem done_inv {value result : α} {trace : Trace}
    (run : Run (.done value) trace (.done result)) : trace = [] ∧ value = result := by
  cases run with
  | stop => exact ⟨rfl, rfl⟩

/-- A run of an action that ends begins with its answer. -/
theorem perform_inv {action : Action} {next : action.Answer → Program α} {trace : Trace}
    {result : α} (run : Run (.perform action next) trace (.done result)) :
    ∃ answer rest, trace = ⟨action, answer⟩ :: rest ∧ Run (next answer) rest (.done result) := by
  cases run with
  | act answer rest => exact ⟨answer, _, rfl, rest⟩

/-- A run of two programs that ends is a run of the first and a run of the second. -/
theorem bind_inv {program : Program α} {next : α → Program β} {trace : Trace} {result : β}
    (run : Run (program.bind next) trace (.done result)) :
    ∃ first value second, trace = first ++ second ∧ Run program first (.done value) ∧
      Run (next value) second (.done result) := by
  induction program generalizing trace with
  | done value => exact ⟨[], value, trace, rfl, Run.stop _, run⟩
  | perform action rest ih =>
      rcases run.perform_inv with ⟨answer, tail, rfl, tailRun⟩
      rcases ih answer tailRun with ⟨first, value, second, rfl, firstRun, secondRun⟩
      exact ⟨_ :: first, value, second, rfl, Run.act answer firstRun, secondRun⟩

theorem snoc {program : Program α} {trace : Trace} {action : Action}
    {next : action.Answer → Program α} (run : Run program trace (.perform action next))
    (answer : action.Answer) : Run program (trace ++ [⟨action, answer⟩]) (next answer) := by
  generalize reached : Program.perform action next = after at run
  induction run with
  | stop program =>
      subst reached
      exact Run.act answer (Run.stop _)
  | act earlier _ ih => exact Run.act earlier (ih reached)

end Run

end Program

end Courier
