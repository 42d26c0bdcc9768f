import Courier.Simulation.Schedule

/-!
# Schedules with enough fuel

What a schedule comes to does not depend on the fuel, once there is enough of it. Statements about
schedules are made for every amount of fuel from some amount on, so that no proof about tasks has to
count: a task that is drained, a sweep through the background and a round of the schedule each get
rules of their own, which say how to go on and never how long.
-/

namespace Courier.Simulation.Schedule

/-- Something holds for every amount of fuel from some amount on. -/
def Enough (holds : Nat → Prop) : Prop := ∃ enough, ∀ fuel, enough ≤ fuel → holds fuel

namespace Enough

variable {holds other : Nat → Prop}

theorem succ (later : Enough fun fuel => holds (fuel + 1)) : Enough holds := by
  rcases later with ⟨enough, later⟩
  refine ⟨enough + 1, ?_⟩
  intro fuel le
  cases fuel with
  | zero => exact absurd le (Nat.not_succ_le_zero enough)
  | succ fuel => exact later fuel (Nat.le_of_succ_le_succ le)

theorem always (all : ∀ fuel, holds fuel) : Enough holds := ⟨0, fun fuel _ => all fuel⟩

theorem and (first : Enough holds) (second : Enough other) :
    Enough fun fuel => holds fuel ∧ other fuel := by
  rcases first with ⟨enough, first⟩
  rcases second with ⟨more, second⟩
  refine ⟨max enough more, ?_⟩
  intro fuel le
  exact ⟨first fuel (Nat.le_trans (Nat.le_max_left _ _) le),
    second fuel (Nat.le_trans (Nat.le_max_right _ _) le)⟩

theorem mono (implies : ∀ fuel, holds fuel → other fuel) (some : Enough holds) : Enough other := by
  rcases some with ⟨enough, some⟩
  exact ⟨enough, fun fuel le => implies fuel (some fuel le)⟩

end Enough

variable {σ τ : Type} {step : Step σ τ} {now : Instant} {shared after : σ} {task next : τ}

/-! ## Draining -/

/-- What draining a task comes to. -/
def Drains (step : Step σ τ) (now : Instant) (shared : σ) (task : τ) (moved : Bool)
    (result : Bool × Standing × τ × σ) : Prop :=
  Enough fun fuel => drain step now shared task moved fuel = result

theorem Drains.halts {standing : Standing} (halts : step now shared task = (standing, next, after))
    (rests : standing ≠ .moved) (moved : Bool) :
    Drains step now shared task moved (moved, standing, next, after) := by
  refine Enough.succ (Enough.always fun fuel => ?_)
  rw [drain, halts]
  cases standing with
  | moved => exact absurd rfl rests
  | waiting wakeAt => rfl
  | ended => rfl

theorem Drains.goesOn {moved : Bool} {result : Bool × Standing × τ × σ}
    (moves : step now shared task = (.moved, next, after))
    (later : Drains step now after next true result) :
    Drains step now shared task moved result := by
  refine Enough.succ (later.mono fun fuel comes => ?_)
  rw [drain, moves]
  exact comes

/-! ## Sweeping -/

/-- What a sweep through tasks comes to. -/
def Sweeps (step : Step σ τ) (now : Instant) (shared : σ) (round : Round) (tasks : List τ)
    (result : Round × List τ × σ) : Prop :=
  Enough fun fuel => sweep step fuel now shared round tasks = result

variable {round : Round} {tasks : List τ}

theorem Sweeps.nil : Sweeps step now shared round [] (round, [], shared) :=
  Enough.always fun _ => rfl

theorem Sweeps.ended {moved : Bool} {result : Round × List τ × σ}
    (ended : Drains step now shared task false (moved, .ended, next, after))
    (rest : Sweeps step now after { round with moved := true } tasks result) :
    Sweeps step now shared round (task :: tasks) result := by
  refine (ended.and rest).mono fun fuel comes => ?_
  rw [sweep, comes.1]
  exact comes.2

theorem Sweeps.waits {wakeAt : Option Instant} {last : Round} {left : List τ} {final : σ}
    (waits : Drains step now shared task false (false, .waiting wakeAt, next, after))
    (rest : Sweeps step now after (round.wait wakeAt) tasks (last, left, final)) :
    Sweeps step now shared round (task :: tasks) (last, next :: left, final) := by
  refine (waits.and rest).mono fun fuel comes => ?_
  rw [sweep, comes.1]
  dsimp only
  rw [Bool.or_false, comes.2]

/-! ## Running -/

/-- What running a schedule comes to. -/
def Runs (step : Step σ τ) (front : τ) (schedule : Schedule σ τ) (holds : τ × Schedule σ τ → Prop) :
    Prop :=
  Enough fun fuel => holds (run step front schedule fuel)

variable {schedule : Schedule σ τ} {holds : τ × Schedule σ τ → Prop} {moved : Bool}

theorem Runs.ended
    (ended : Drains step schedule.now schedule.shared task false (moved, .ended, next, after))
    (reached : holds (next, { schedule with shared := after })) :
    Runs step task schedule holds := by
  refine Enough.succ (ended.mono fun fuel comes => ?_)
  rw [run, comes]
  exact reached

variable {wakeAt : Option Instant} {left : List τ} {final : σ}

/-- A round in which something moved is followed by another one at the same moment. -/
theorem Runs.again
    (waits : Drains step schedule.now schedule.shared task false
      (moved, .waiting wakeAt, next, after))
    (swept : Sweeps step schedule.now after { moved, wakeAt } schedule.background
      (round, left, final))
    (stirred : round.moved = true)
    (later : Runs step next { schedule with shared := final, background := left } holds) :
    Runs step task schedule holds := by
  refine Enough.succ ((waits.and (swept.and later)).mono fun fuel comes => ?_)
  rw [run, comes.1]
  simp only [reduceCtorEq, if_false, comes.2.1, stirred, if_true]
  exact comes.2.2

/-- After a round in which nothing moved the clock goes on to the earliest moment. -/
theorem Runs.jumps {moment : Instant}
    (waits : Drains step schedule.now schedule.shared task false
      (moved, .waiting wakeAt, next, after))
    (swept : Sweeps step schedule.now after { moved, wakeAt } schedule.background
      (round, left, final))
    (still : round.moved = false) (wakes : round.wakeAt = some moment)
    (later : Runs step next
      { now := max schedule.now moment, shared := final, background := left } holds) :
    Runs step task schedule holds := by
  refine Enough.succ ((waits.and (swept.and later)).mono fun fuel comes => ?_)
  rw [run, comes.1]
  simp only [reduceCtorEq, if_false, comes.2.1, still, wakes, Bool.false_eq_true]
  exact comes.2.2

end Courier.Simulation.Schedule
