import Courier.Time

/-!
# Schedules

Tasks that share something take turns on a virtual clock. A task runs until it can only wait; when
all of them wait, the clock jumps to the earliest moment one of them waits for. One task is in
front: the schedule runs until that one has ended.
-/

namespace Courier.Simulation

/-- How a task stands after it was moved on. -/
inductive Standing where
  | moved
  | waiting (wakeAt : Option Instant)
  | ended
  deriving DecidableEq, Repr

abbrev Step (σ τ : Type) := Instant → σ → τ → Standing × τ × σ

/-- What a round of tasks has come to: whether one of them moved, and the earliest moment one of
them waits for. -/
structure Round where
  moved : Bool := false
  wakeAt : Option Instant := none

namespace Round

/-- The earlier of two moments, if there are two. -/
def earlier : Option Instant → Option Instant → Option Instant
  | none, right => right
  | left, none => left
  | some left, some right => some (min left right)

def wait (round : Round) (wakeAt : Option Instant) : Round :=
  { round with wakeAt := earlier round.wakeAt wakeAt }

end Round

/-- A schedule: the time, what the tasks share, the tasks in the background. -/
structure Schedule (σ τ : Type) where
  now : Instant
  shared : σ
  background : List τ

namespace Schedule

variable {σ τ : Type}

/-- Runs a task until it waits or ends, at most `fuel` steps. Also tells whether it moved. -/
def drain (step : Step σ τ) (now : Instant) (shared : σ) (task : τ) (moved : Bool) :
    (fuel : Nat) → Bool × Standing × τ × σ
  | 0 => (moved, .moved, task, shared)
  | fuel + 1 =>
      match step now shared task with
      | (.moved, task, shared) => drain step now shared task true fuel
      | (standing, task, shared) => (moved, standing, task, shared)

/-- Runs every task in the background once; those that have ended are dropped. -/
def sweep (step : Step σ τ) (fuel : Nat) (now : Instant) (shared : σ) (round : Round) :
    List τ → Round × List τ × σ
  | [] => (round, [], shared)
  | task :: rest =>
      match drain step now shared task false fuel with
      | (moved, standing, task, shared) =>
          let round := { round with moved := round.moved || moved }
          match standing with
          | .ended => sweep step fuel now shared { round with moved := true } rest
          | .moved =>
              let (round, rest, shared) := sweep step fuel now shared round rest
              (round, task :: rest, shared)
          | .waiting wakeAt =>
              let (round, rest, shared) := sweep step fuel now shared (round.wait wakeAt) rest
              (round, task :: rest, shared)

/-- Runs the schedule until the task in front has ended or nothing is left to wait for. -/
def run (step : Step σ τ) (front : τ) (schedule : Schedule σ τ) : (fuel : Nat) → τ × Schedule σ τ
  | 0 => (front, schedule)
  | fuel + 1 =>
      match drain step schedule.now schedule.shared front false fuel with
      | (moved, standing, front, shared) =>
          if standing = .ended then (front, { schedule with shared })
          else
            let begun : Round :=
              match standing with
              | .waiting wakeAt => { moved, wakeAt }
              | _ => { moved := true }
            let (round, background, shared) :=
              sweep step fuel schedule.now shared begun schedule.background
            let schedule := { schedule with shared, background }
            if round.moved then run step front schedule fuel
            else
              match round.wakeAt with
              | none => (front, schedule)
              | some wakeAt => run step front { schedule with now := max schedule.now wakeAt } fuel

/-- Runs the tasks in the background until none of them moves, without letting time pass. -/
def settle (step : Step σ τ) (schedule : Schedule σ τ) : (fuel : Nat) → Schedule σ τ
  | 0 => schedule
  | fuel + 1 =>
      let (round, background, shared) :=
        sweep step fuel schedule.now schedule.shared {} schedule.background
      let schedule := { schedule with shared, background }
      if round.moved then settle step schedule fuel else schedule

def patience : Nat := 1000000

end Schedule

end Courier.Simulation
