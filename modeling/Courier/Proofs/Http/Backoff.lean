import Courier.Proofs.Http.Sending
import Mathlib.Algebra.BigOperators.Group.Finset.Basic
import Mathlib.Data.ENat.Lattice

/-!
# Trying a full channel again

A message that a full channel refuses is sent again after a pause, as often as the settings say. A
script of outcomes decides over the attempts: they go on as long as outcomes tell of a full channel
and attempts are left, so their number is told by the script up to its first other outcome, and so
are the pauses. These double ten times, unless they reach the longest duration before.

Attempts are counted in words of 32 bits. No count and no factor of a pause goes beyond them.
-/

namespace Courier

namespace Performed

/-- The duration of a pause. -/
def pause? : Performed → Option Duration
  | ⟨.pause duration, _⟩ => some duration
  | _ => none

end Performed

namespace Trace

/-- The pauses, in order. -/
def pauses (trace : Trace) : List Duration := trace.filterMap Performed.pause?

theorem pauses_append (first second : Trace) :
    pauses (first ++ second) = first.pauses ++ second.pauses :=
  List.filterMap_append

end Trace

namespace Http

/-! ## Refusals -/

/-- An outcome that tells of a full channel. -/
def IsFull (outcome : Except ChannelError Unit) : Prop :=
  ∃ channel, outcome = .error (.channelFull channel)

/-- How many outcomes a script has before the first that does not tell of a full channel. -/
noncomputable def leadingRefusals (script : Nat → Except ChannelError Unit) : ℕ∞ :=
  ⨅ (number : Nat) (_ : ¬IsFull (script number)), (number : ℕ∞)

theorem min_leadingRefusals {script : Nat → Except ChannelError Unit} {count limit : Nat}
    (within : count ≤ limit) (refused : ∀ number < count, IsFull (script number))
    (stops : count < limit → ¬IsFull (script count)) :
    min (leadingRefusals script) limit = count := by
  have lower : (count : ℕ∞) ≤ leadingRefusals script := by
    apply le_iInf₂
    intro number other
    rw [Nat.cast_le]
    by_contra early
    exact other (refused number (Nat.lt_of_not_le early))
  rcases Nat.eq_or_lt_of_le within with rfl | short
  · exact min_eq_right lower
  · have upper : leadingRefusals script ≤ count := iInf₂_le count (stops short)
    rw [le_antisymm upper lower]
    exact min_eq_left (Nat.cast_le.mpr within)

/-! ## One message -/

/-- An attempt that is refused, and the pause behind it. -/
def vainTry (settings : HttpSettings) (channel : String) (message : Message)
    (script : Nat → Except ChannelError Unit) (number : Nat) : Trace :=
  [⟨.send channel message, script number⟩, ⟨.pause (settings.backoff number), ()⟩]

/-- Some attempts that are refused, and the last one. -/
def tries (settings : HttpSettings) (channel : String) (message : Message)
    (script : Nat → Except ChannelError Unit) (first count : Nat) : Trace :=
  (List.range' first count).flatMap (vainTry settings channel message script) ++
    [⟨.send channel message, script (first + count)⟩]

section Tries

variable {settings : HttpSettings} {channel : String} {message : Message}
  {script : Nat → Except ChannelError Unit} {first count : Nat}

theorem tries_succ :
    tries settings channel message script first (count + 1) =
      vainTry settings channel message script first ++
        tries settings channel message script (first + 1) count := by
  rw [tries, tries, List.range'_succ, List.flatMap_cons, List.append_assoc, Nat.add_right_comm,
    Nat.add_assoc]

theorem attempts_tries :
    (tries settings channel message script first count).attempts =
      (List.range' first (count + 1)).map fun number => ⟨channel, message, script number⟩ := by
  induction count generalizing first with
  | zero => rfl
  | succ count ih =>
      rw [tries_succ, Trace.attempts_append, ih, List.range'_succ (n := count + 1)]
      rfl

theorem pauses_tries :
    (tries settings channel message script first count).pauses =
      (List.range' first count).map settings.backoff := by
  induction count generalizing first with
  | zero => rfl
  | succ count ih =>
      rw [tries_succ, Trace.pauses_append, ih, List.range'_succ]
      rfl

end Tries

section Played

variable {settings : HttpSettings} {channel : String} {message : Message}
  {script : Nat → Except ChannelError Unit} {past : Trace} {first : Nat}

theorem play_refused {name : String} (made : past.attempts.length = first)
    (refused : script first = .error (.channelFull name)) (retries : Nat) :
    (sendRetrying settings channel message first (retries + 1)).play (.ofScript script) past =
      let rest := (sendRetrying settings channel message (first + 1) retries).play
        (.ofScript script) (past ++ vainTry settings channel message script first)
      (vainTry settings channel message script first ++ rest.1, rest.2) := by
  subst made
  simp only [sendRetrying, bind, Program.bind, Program.send, Program.pause, Program.play,
    Environment.ofScript, vainTry, refused, List.append_assoc]
  rfl

theorem play_other (made : past.attempts.length = first) (other : ¬IsFull (script first))
    (retries : Nat) :
    (sendRetrying settings channel message first retries).play (.ofScript script) past =
      ([⟨.send channel message, script first⟩], script first) := by
  subst made
  cases retries with
  | zero => rfl
  | succ retries =>
      match answer : script past.attempts.length with
      | .error (.channelFull name) => exact absurd ⟨name, answer⟩ other
      | .ok _ | .error (.backendUnavailable _) | .error (.duplicateConsumer _)
      | .error (.malformedMessage _) | .error (.unknownBackend _) | .error (.configuration _)
      | .error (.serialization _) =>
          simp only [sendRetrying, bind, Program.bind, Program.send, Program.play,
            Environment.ofScript, answer]
          rfl

/-- Attempts go on as long as they are refused and more of them are left. -/
theorem play_sendRetrying (made : past.attempts.length = first) (retries : Nat) :
    ∃ count ≤ retries, (∀ number ∈ List.range' first count, IsFull (script number)) ∧
      (count < retries → ¬IsFull (script (first + count))) ∧
      (sendRetrying settings channel message first retries).play (.ofScript script) past =
        (tries settings channel message script first count, script (first + count)) := by
  induction retries generalizing first past with
  | zero =>
      subst made
      exact ⟨0, Nat.le_refl 0, nofun, nofun, rfl⟩
  | succ retries ih =>
      by_cases full : IsFull (script first)
      · rcases full with ⟨name, refused⟩
        have more : (past ++ vainTry settings channel message script first).attempts.length =
            first + 1 := by
          rw [Trace.attempts_append, List.length_append, made]
          rfl
        rcases ih more with ⟨count, within, fullThen, stops, played⟩
        refine ⟨count + 1, Nat.succ_le_succ within, ?_, ?_, ?_⟩
        · rw [List.range'_succ]
          exact List.forall_mem_cons.mpr ⟨⟨name, refused⟩, fullThen⟩
        · intro short
          rw [← Nat.add_assoc, Nat.add_right_comm]
          exact stops (Nat.lt_of_succ_lt_succ short)
        · rw [play_refused made refused, played, tries_succ, ← Nat.add_assoc, Nat.add_right_comm]
      · refine ⟨0, Nat.zero_le _, nofun, fun _ => full, ?_⟩
        rw [play_other made full]
        rfl

end Played

/-! ## Words of 32 bits -/

/-- Counting up to a word goes no further than the word. -/
theorem toNat_succ {limit attempt : UInt32} (below : attempt < limit) :
    (attempt + 1).toNat = attempt.toNat + 1 := by
  have bound := limit.toNat_lt
  rw [UInt32.lt_iff_toNat_lt] at below
  rw [UInt32.toNat_add, UInt32.toNat_one]
  omega

/-- Sends a message like `sendPatiently`, with attempts counted in words of 32 bits. -/
def sendCounting (settings : HttpSettings) (channel : String) (message : Message)
    (limit attempt : UInt32) : Program (Except ChannelError Unit) := do
  match ← Program.send channel message with
  | .error (.channelFull full) =>
      if _ : attempt < limit then
        Program.pause
          (settings.retryBackoff.saturatingMul ((1 : UInt32) <<< min attempt 10).toNat)
        sendCounting settings channel message limit (attempt + 1)
      else return .error (.channelFull full)
  | result => return result
termination_by limit.toNat - attempt.toNat
decreasing_by
  rename_i below
  have next := toNat_succ below
  rw [UInt32.lt_iff_toNat_lt] at below
  omega

theorem toNat_shift (attempt : UInt32) :
    ((1 : UInt32) <<< min attempt 10).toNat = 2 ^ min attempt.toNat 10 := by
  have small : min attempt.toNat 10 ≤ 10 := Nat.min_le_right _ _
  have toNat_min : (min attempt 10).toNat = min attempt.toNat 10 := by
    rw [UInt32.toNat_min]
    rfl
  have fits : 2 ^ min attempt.toNat 10 ≤ 2 ^ 10 := Nat.pow_le_pow_right (by decide) small
  rw [UInt32.toNat_shiftLeft, toNat_min, Nat.mod_eq_of_lt (show min attempt.toNat 10 < 32 by omega),
    UInt32.toNat_one, Nat.one_shiftLeft]
  exact Nat.mod_eq_of_lt (Nat.lt_of_le_of_lt fits (by decide))

/-- No word wraps around. -/
theorem sendCounting_eq (settings : HttpSettings) (channel : String) (message : Message)
    {limit attempt : UInt32} {retries : Nat} (left : attempt.toNat + retries = limit.toNat) :
    sendCounting settings channel message limit attempt =
      sendRetrying settings channel message attempt.toNat retries := by
  induction retries generalizing attempt with
  | zero =>
      have done : ¬attempt < limit := by
        rw [UInt32.lt_iff_toNat_lt]
        omega
      rw [sendCounting, sendRetrying]
      simp only [done]
      change Program.perform (.send channel message) _ = .perform (.send channel message) _
      congr 1
      funext answer
      change Except ChannelError Unit at answer
      match answer with
      | .error (.channelFull full) => rfl
      | .ok _ | .error (.backendUnavailable _) | .error (.duplicateConsumer _)
      | .error (.malformedMessage _) | .error (.unknownBackend _) | .error (.configuration _)
      | .error (.serialization _) => rfl
  | succ retries ih =>
      have below : attempt < limit := by
        rw [UInt32.lt_iff_toNat_lt]
        omega
      have next := toNat_succ below
      have rest := @ih (attempt + 1) (by omega)
      rw [sendCounting, sendRetrying]
      simp only [below, dif_pos, rest, next, toNat_shift]
      rfl

/-! ## Main result -/

/-- What becomes of a message that is sent again a number of times, with attempts answered by a
script. -/
structure Persists (settings : HttpSettings) (channel : String) (message : Message)
    (script : Nat → Except ChannelError Unit) (retries : Nat) (trace : Trace)
    (result : Except ChannelError Unit) : Prop where
  refusals : min (leadingRefusals script) settings.sendRetries = retries
  course : trace = tries settings channel message script 0 retries
  attempts : trace.attempts =
    (List.range (retries + 1)).map fun number => ⟨channel, message, script number⟩
  /-- No other error is followed by an attempt. -/
  settled : ∀ number, ¬IsFull (script number) → trace.attempts.length ≤ number + 1
  waits : trace.pauses.sum =
    ∑ number ∈ Finset.range retries,
      min (settings.retryBackoff * 2 ^ min number 10) Duration.longest
  succeeds : trace.attempts.countP (fun attempt => attempt.result.isOk) ≤ 1
  /-- The last attempt decides, and it alone may leave the message on the channel. -/
  tried : Tried channel message result trace

section Persists

variable {settings : HttpSettings} {channel : String} {message : Message}
  {script : Nat → Except ChannelError Unit} {retries : Nat}

theorem persists_tries (within : retries ≤ settings.sendRetries)
    (refused : ∀ number < retries, IsFull (script number))
    (stops : retries < settings.sendRetries → ¬IsFull (script retries))
    (tried : Tried channel message (script retries)
      (tries settings channel message script 0 retries)) :
    Persists settings channel message script retries
      (tries settings channel message script 0 retries) (script retries) := by
  have attempts := @attempts_tries settings channel message script 0 retries
  have pauses := @pauses_tries settings channel message script 0 retries
  rw [← List.range_eq_range'] at attempts pauses
  constructor
  · exact min_leadingRefusals within refused stops
  · rfl
  · exact attempts
  · intro number other
    rw [attempts, List.length_map, List.length_range, Nat.add_le_add_iff_right]
    by_contra early
    exact other (refused number (Nat.lt_of_not_le early))
  · rw [pauses]
    rfl
  · have others : (List.range retries).countP
        ((fun attempt : Attempt => attempt.result.isOk) ∘
          fun number => ⟨channel, message, script number⟩) = 0 := by
      rw [List.countP_eq_zero]
      intro number mem
      rcases refused number (List.mem_range.mp mem) with ⟨name, full⟩
      simp [full, Except.isOk, Except.toBool]
    rw [attempts, List.countP_map, List.range_succ, List.countP_append, others, Nat.zero_add]
    exact List.countP_le_length
  · exact tried

theorem exists_persists (settings : HttpSettings) (channel : String) (message : Message)
    (script : Nat → Except ChannelError Unit) :
    let played := (sendPatiently settings channel message).play (.ofScript script) []
    ∃ retries, Persists settings channel message script retries played.1 played.2 := by
  intro played
  have tried : Tried channel message played.2 played.1 :=
    tried_of_run (Program.run_play (.ofScript script) [] (sendPatiently settings channel message))
  rcases @play_sendRetrying settings channel message script [] 0 rfl settings.sendRetries with
    ⟨retries, within, refused, stops, isPlayed⟩
  rw [Nat.zero_add] at stops isPlayed
  have isPlayed : played = _ := isPlayed
  rw [isPlayed] at tried ⊢
  refine ⟨retries, persists_tries within ?_ stops tried⟩
  intro number below
  apply refused
  rw [← List.range_eq_range']
  exact List.mem_range.mpr below

theorem Persists.retries_le {trace : Trace} {result : Except ChannelError Unit}
    (persists : Persists settings channel message script retries trace result) :
    retries ≤ settings.sendRetries := by
  have bound := min_le_right (leadingRefusals script) (settings.sendRetries : ℕ∞)
  rw [persists.refusals] at bound
  exact Nat.cast_le.mp bound

end Persists

/-- A message is sent again as long as the channel is full and attempts are left, and never after
another error. The pauses in between double ten times, up to the longest duration. The last attempt
decides, and it is the only one that may succeed. The numbers of the attempts and the factors of the
pauses stay below the bound of words of 32 bits, so counting in such words makes no difference. -/
theorem full_channels_are_tried_again (settings : HttpSettings) (channel : String)
    (message : Message) (script : Nat → Except ChannelError Unit)
    (counted : settings.sendRetries < UInt32.size) :
    let played := (sendPatiently settings channel message).play (.ofScript script) []
    (∃ retries, Persists settings channel message script retries played.1 played.2 ∧
      ∀ number < retries, number + 1 < UInt32.size ∧ 2 ^ min number 10 < UInt32.size) ∧
    sendPatiently settings channel message =
      sendCounting settings channel message (UInt32.ofNat settings.sendRetries) 0 := by
  intro played
  constructor
  · rcases exists_persists settings channel message script with ⟨retries, persists⟩
    refine ⟨retries, persists, ?_⟩
    intro number below
    have within := persists.retries_le
    have small : 2 ^ min number 10 ≤ 2 ^ 10 :=
      Nat.pow_le_pow_right (by decide) (Nat.min_le_right _ _)
    exact ⟨by omega, Nat.lt_of_le_of_lt small (by decide)⟩
  · symm
    apply sendCounting_eq
    rw [UInt32.toNat_ofNat_of_lt' counted]
    exact Nat.zero_add _

/-- The second pause would pass the longest duration. The error behind the two refusals ends the
attempts, although one more is left. -/
theorem full_channels_are_tried_again_twice :
    let settings : HttpSettings := { sendRetries := 3, retryBackoff := Duration.longest - 1 }
    let script : Nat → Except ChannelError Unit := fun number =>
      if number < 2 then .error (.channelFull "reply") else .error (.backendUnavailable "down")
    let played := (sendPatiently settings "reply" ⟨[]⟩).play (.ofScript script) []
    settings.sendRetries < UInt32.size ∧
      (∃ retries, Persists settings "reply" ⟨[]⟩ script retries played.1 played.2) ∧
      played.1.attempts.length = 3 ∧
      played.1.pauses = [Duration.longest - 1, Duration.longest] ∧
      played.2 = .error (.backendUnavailable "down") := by
  intro settings script played
  have counted : settings.sendRetries < UInt32.size := by decide
  rcases full_channels_are_tried_again settings "reply" ⟨[]⟩ script counted with
    ⟨⟨retries, persists, -⟩, -⟩
  have pauses : played.1.pauses = [settings.backoff 0, settings.backoff 1] := rfl
  refine ⟨counted, ⟨retries, persists⟩, rfl, ?_, rfl⟩
  rw [pauses]
  decide +kernel

end Http

end Courier
