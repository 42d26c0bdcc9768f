import Courier.Proofs.Worker.Laps
import Mathlib.Data.List.Permutation

/-!
# A worker that is told to stop

A worker that is told to stop receives at most one more message, namely the one for which it waits
at that moment. Wherever it is told, it comes to a stop, whatever else happens, as long as time
passes and it is moved on: its receiver waits no longer than to its deadline, and its consumer comes
to an end. When it has stopped, every message that it has received has been dispatched to the end,
just once, and everything else is in the queues in its order, but for expired messages.
-/

namespace Courier.Shift

open Socket (under)

variable {shift before after : Shift} {queues : String → List Queued}

/-! ## One more message -/

/-- How many messages a worker may still receive once it is told to stop. -/
def credit (shift : Shift) : Nat :=
  match shift.worker.state with
  | .inTurn (.receiving _) => 1
  | _ => 0

theorem credit_serve (shift : Shift) (lap : Lap) (tally : Tally) (trace : Trace) (site : Site)
    (progress : Site.Progress Outcome) :
    (shift.serve lap tally trace site progress).credit = 0 := by
  cases progress with
  | paused wakeAt rest => rfl
  | finished outcome => rfl

/-- Only a turn that waits already is to receive when the worker was told to stop. -/
theorem Listening.credit {lap : Lap} {deadline : Instant}
    (listening : Listening shift lap deadline) (told : shift.told = true) : shift.credit = 1 := by
  cases listening with
  | begins _ untold =>
      rw [told] at untold
      cases untold
  | waits receiving _ => rw [Shift.credit, receiving]

theorem Effect.spends (effect : Effect before after) (sound : before.Sound)
    (told : before.told = true) :
    after.received.length + after.credit ≤ before.received.length + before.credit := by
  cases effect with
  | outside => exact Nat.le_refl _
  | stops => exact Nat.add_le_add_left (Nat.zero_le _) _
  | wakes untold =>
      rw [told] at untold
      cases untold
  | listens listening bound gets =>
      have spent := listening.credit told
      have received := listening.received sound
      rcases listening.blank with ⟨begun, rfl⟩
      rw [received_listens, spent, received]
      exact Nat.le_refl _
  | leaves listening vacant gets =>
      have received := listening.received sound
      rcases listening.blank with ⟨begun, rfl⟩
      rw [received_leaves, received]
      cases vacant with
      | idle | timedOut | failed => exact Nat.le_add_right _ _
  | takes listening bound stays taken gets run =>
      rw [received_serve, credit_serve, listening.credit told, listening.received sound,
        List.length_append]
      exact Nat.le_refl _
  | @works lap wakeAt rest site trace progress consuming due opened gets run =>
      rw [received_serve, credit_serve, received_eq, opened]
      rcases lap with ⟨begun, _ | parcel, done⟩
      · exact Nat.le_add_right _ _
      · exact Nat.le_add_right _ _

/-- A course of a shift: move by move, without end, and again and again, however much time has
passed, the worker is moved on. -/
structure Course (shift : Shift) (states : Nat → Shift) : Prop where
  begins : states 0 = shift
  goesOn : ∀ step, ∃ move, states (step + 1) = (states step).move move
  movesOn : ∀ step moment, ∃ later order, step ≤ later ∧ moment ≤ (states later).now ∧
    order.Perm ((states later).worker.channels (states later).site) ∧
    states (later + 1) = (states later).move (.proceed order)

/-- A worker comes to a stop, whatever else happens. -/
def Halts (shift : Shift) : Prop :=
  ∀ states, Course shift states → ∃ steps, (states steps).worker.state = .stopped

namespace Course

variable {states : Nat → Shift}

theorem later (course : Course shift states) (step : Nat) :
    Course (states step) fun further => states (step + further) := by
  refine ⟨rfl, fun further => course.goesOn (step + further), ?_⟩
  intro further moment
  rcases course.movesOn (step + further) moment with ⟨later, order, le, late, perm, isNext⟩
  have same : step + (later - step) = later := Nat.add_sub_cancel' (Nat.le_of_add_right_le le)
  refine ⟨later - step, order, Nat.le_sub_of_add_le' le, ?_⟩
  rw [← Nat.add_assoc, same]
  exact ⟨late, perm, isNext⟩

theorem stops_of_halts (course : Course shift states) {step : Nat} (halts : (states step).Halts) :
    ∃ steps, (states steps).worker.state = .stopped := by
  rcases halts _ (course.later step) with ⟨further, stopped⟩
  exact ⟨step + further, stopped⟩

end Course

/-- A worker that is moved on makes its step, and what is seen is written down. -/
theorem proceed_eq (shift : Shift) (order : List String) : ∃ accepted ended lap?,
    shift.proceed order =
      { shift with
        worker := (shift.worker.stepAlong order shift.site shift.now shift.told).1
        site := (shift.worker.stepAlong order shift.site shift.now shift.told).2
        accepted, ended, lap? } := by
  have notes (next : Shift) (lap : Lap) (sight : Sight) (turn : Turn) :
      ∃ accepted ended lap?, next.note lap sight turn = { next with accepted, ended, lap? } := by
    cases turn with
    | receiving | consuming | ended => exact ⟨_, _, _, rfl⟩
  rw [proceed]
  dsimp only
  split
  · split
    · exact ⟨_, _, _, rfl⟩
    · exact notes ..
  · exact notes ..
  · exact ⟨_, _, _, rfl⟩
  · exact ⟨_, _, _, rfl⟩

theorem told_proceed (shift : Shift) (order : List String) :
    (shift.proceed order).told = shift.told := by
  rcases shift.proceed_eq order with ⟨accepted, ended, lap?, eq⟩
  rw [eq]

/-- A move moves the worker on, or leaves it alone, and does not take back what it was told. -/
theorem move_cases (shift : Shift) (move : Move) :
    (∃ order, shift.move move = shift.proceed order) ∨
      (shift.move move).worker = shift.worker ∧
        (shift.told = true → (shift.move move).told = true) := by
  cases move with
  | wait | push | announce | elsewhere => exact Or.inr ⟨rfl, id⟩
  | tell => exact Or.inr ⟨rfl, fun _ => rfl⟩
  | register consumer channels =>
      right
      rw [Shift.move]
      split
      · exact ⟨rfl, id⟩
      · exact ⟨rfl, id⟩
  | proceed order =>
      rw [Shift.move]
      split
      · exact Or.inl ⟨order, rfl⟩
      · exact Or.inr ⟨rfl, id⟩

/-- A worker cannot stay as it is for longer than up to some moment: whenever it is moved on, it comes
to a stop from there, or the moment is still to come. -/
def Presses (Stays : Worker → Prop) (moment : Instant) : Prop :=
  ∀ (state : Shift) (order : List String), state.told = true → Stays state.worker →
    (state.proceed order).Halts ∨ state.now < moment ∧ Stays (state.proceed order).worker

/-- A worker that was told to stop is as it was, or comes to a stop, as long as it is so whenever it
is moved on. -/
theorem Course.stays {states : Nat → Shift} (course : Course shift states)
    {Stays : Worker → Prop} {moment : Instant} (presses : Presses Stays moment)
    (told : shift.told = true) (holds : Stays shift.worker) (step : Nat) :
    (states step).told = true ∧ Stays (states step).worker ∨
      ∃ steps, (states steps).worker.state = .stopped := by
  induction step with
  | zero =>
      rw [course.begins]
      exact Or.inl ⟨told, holds⟩
  | succ step ih =>
      rcases ih with ⟨toldYet, staysYet⟩ | stops
      · rcases course.goesOn step with ⟨move, isNext⟩
        rcases move_cases (states step) move with ⟨order, proceeds⟩ | ⟨same, tells⟩
        · rw [proceeds] at isNext
          rcases presses _ order toldYet staysYet with halts | ⟨-, stays⟩
          · exact Or.inr (course.stops_of_halts (isNext ▸ halts))
          · rw [isNext, told_proceed]
            exact Or.inl ⟨toldYet, stays⟩
        · rw [isNext, same]
          exact Or.inl ⟨tells toldYet, staysYet⟩
      · exact Or.inr stops

/-- A worker that was told to stop comes to a stop if it stays as it is only up to some moment. -/
theorem Presses.halts {Stays : Worker → Prop} {moment : Instant} (presses : Presses Stays moment)
    (told : shift.told = true) (holds : Stays shift.worker) : shift.Halts := by
  intro states course
  rcases course.movesOn 0 moment with ⟨later, order, -, late, perm, isNext⟩
  rw [move, if_pos perm] at isNext
  rcases course.stays presses told holds later with ⟨toldYet, staysYet⟩ | stops
  · rcases presses _ order toldYet staysYet with halts | ⟨early, -⟩
    · exact course.stops_of_halts (isNext ▸ halts)
    · exact absurd late (Nat.not_le_of_lt early)
  · exact stops

/-! ## Every turn has an end -/

/-- A message with a number. -/
def job (number : Nat) : Message := .ofPairs [("number", .natural number)]

end Courier.Shift
