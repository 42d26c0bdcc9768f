import Courier.Proofs.Program.Trace

/-!
# What a program may send

A program stays within a set of messages if, however its actions are answered, it tries to send
messages of this set only. This is read off the tree of its actions, and it holds of whatever is
left of the program after some of them, so it bounds the attempts of every run, finished or not.
-/

namespace Courier

namespace Action

/-- An action that is no attempt to send, or an attempt to send an allowed message. -/
def Allowed (allowed : String → Message → Prop) : Action → Prop
  | .send channel message => allowed channel message
  | _ => True

end Action

namespace Trace

variable {channel : String} {trace : Trace}

theorem attempts_cons (performed : Performed) (trace : Trace) :
    attempts (performed :: trace) = performed.attempt?.toList ++ trace.attempts := by
  cases found : performed.attempt? with
  | none => exact List.filterMap_cons_none found
  | some attempt => exact List.filterMap_cons_some found

theorem accepted_eq_nil (elsewhere : ∀ attempt ∈ trace.attempts, attempt.channel ≠ channel) :
    trace.accepted channel = [] := by
  rw [accepted, List.filterMap_eq_nil_iff]
  intro attempt mem
  rw [Attempt.accepted?]
  split
  · exact if_neg (elsewhere attempt mem)
  · rfl

end Trace

namespace Program

variable {α β : Type} {allowed more : String → Message → Prop}

/-- A program that tries to send allowed messages only, however its actions are answered. -/
def Within (allowed : String → Message → Prop) : Program α → Prop
  | .done _ => True
  | .perform action next =>
      action.Allowed allowed ∧ ∀ answer, Within allowed (next answer)

namespace Within

theorem done (value : α) : Within allowed (.done value) := trivial

theorem mono (le : ∀ channel message, allowed channel message → more channel message)
    {program : Program α} (within : Within allowed program) : Within more program := by
  induction program with
  | done value => trivial
  | perform action next ih =>
      refine ⟨?_, fun answer => ih answer (within.2 answer)⟩
      have first := within.1
      cases action with
      | send channel message => exact le channel message first
      | members _ | pause _ | report _ | record _ _ | loadSession _ | saveSession _ _ | freshKey =>
          trivial

theorem bind {program : Program α} {next : α → Program β} (within : Within allowed program)
    (nextWithin : ∀ value, Within allowed (next value)) : Within allowed (program.bind next) := by
  induction program with
  | done value => exact nextWithin value
  | perform action rest ih => exact ⟨within.1, fun answer => ih answer (within.2 answer)⟩

theorem allowed_of_run {program after : Program α} {trace : Trace} (within : Within allowed program)
    (run : Run program trace after) :
    ∀ attempt ∈ trace.attempts, allowed attempt.channel attempt.message := by
  induction run with
  | stop program =>
      intro attempt mem
      exact absurd mem List.not_mem_nil
  | @act action next answer trace after _ ih =>
      intro attempt mem
      rw [Trace.attempts_cons, List.mem_append, Option.mem_toList] at mem
      rcases mem with first | later
      · have may := within.1
        cases action with
        | send channel message =>
            cases first
            exact may
        | members _ | pause _ | report _ | record _ _ | loadSession _ | saveSession _ _
        | freshKey => cases first
      · exact ih (within.2 answer) attempt later

end Within

end Program

end Courier
