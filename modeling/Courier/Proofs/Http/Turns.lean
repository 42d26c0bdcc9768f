import Courier.Proofs.Http.Traffic

/-!
# Turns are moves

A worker makes a turn as a whole: it takes a message and follows the call to its end or its next
pause before anybody else comes to act. The same can be done by moves of the worker, of which
several make up a turn. So whatever holds of all series of moves holds of workers that make turns.
-/

namespace Courier.Http.Traffic

variable {clients : Nat → Client} {traffic : Traffic} {worker : Nat}

/-- A worker has come as far as its turn. -/
def InTurn (traffic : Traffic) (worker : Nat) : Turn → Prop
  | .receiving waiting => traffic.stations worker = .waiting waiting ∧
      waiting.channels.Perm traffic.site.registry.channels
  | .consuming wakeAt rest => ∃ number call, traffic.stations worker = .busy number ∧
      traffic.calls[number]? = some call ∧ call.strand = .pausing wakeAt rest
  | .ended _ => traffic.stations worker = .idle

/-- A worker has come as far as its turn, on the site of the turn, and no time has passed. -/
structure Reaches (now : Instant) (worker : Nat) (turn : Turn × Tally × Site) (traffic : Traffic) :
    Prop where
  inTurn : traffic.InTurn worker turn.1
  site : traffic.site = turn.2.2
  now : traffic.now = now

/-- A worker carries out a call, which has come as far as a strand on some site. -/
structure Carries (now : Instant) (worker : Nat) (state : Strand Outcome × Site)
    (traffic : Traffic) : Prop where
  call : ∃ number call, traffic.stations worker = .busy number ∧
    traffic.calls[number]? = some call ∧ call.strand = state.1
  site : traffic.site = state.2
  now : traffic.now = now

variable {now : Instant} {state : Strand Outcome × Site}

theorem Carries.work (clients : Nat → Client) (carries : Carries now worker state traffic) :
    Carries now worker (Strand.advance now state) (traffic.move clients (.work worker)) := by
  rcases state with ⟨strand, site⟩
  rcases carries with ⟨⟨number, call, busy, found, isStrand⟩, isSite, isNow⟩
  cases isStrand
  cases isSite
  cases isNow
  have moved : traffic.move clients (.work worker) = traffic.act number call := by
    simp only [move, busy, found]
  rw [moved]
  exact ⟨⟨number, _, busy, List.getElem?_set_self (List.getElem?_eq_some_iff.mp found).1, rfl⟩,
    rfl, rfl⟩

theorem Carries.iterate (clients : Nat → Client) (count : Nat)
    (carries : Carries now worker state traffic) :
    ∃ moves, Carries now worker ((Strand.advance now)^[count] state)
      (traffic.run clients moves) := by
  induction count generalizing traffic state with
  | zero => exact ⟨[], carries⟩
  | succ count ih =>
      rcases ih (carries.work clients) with ⟨moves, reached⟩
      exact ⟨.work worker :: moves, reached⟩

/-- A call is followed to its end or its next pause. -/
theorem Carries.follow {program : Program Outcome} {site : Site}
    (carries : Carries now worker (.ready program, site) traffic) (tally : Tally) :
    ∃ moves, Reaches now worker (Turn.follow site now tally program)
      (traffic.run clients moves) := by
  rcases Strand.exists_iterate_advance site now program with ⟨count, runs⟩
  rcases carries.iterate clients count with ⟨moves, reached⟩
  rw [runs] at reached
  rw [Turn.follow]
  generalize site.run now program = progress at reached ⊢
  rcases progress with ⟨outcome | ⟨wakeAt, rest⟩, after⟩
  · rcases reached with ⟨⟨number, call, busy, found, done⟩, isSite, isNow⟩
    change call.strand = .ready (.done outcome) at done
    -- the call is done, and one more move lets the worker go
    refine ⟨moves ++ [.finish worker], ?_⟩
    rw [run_snoc]
    generalize traffic.run clients moves = reached at busy found isSite isNow ⊢
    have moved : reached.move clients (.finish worker) =
        { reached.withStation worker .idle with
          site := reached.site.reportAll outcome.report?.toList } := by
      simp only [move, busy, found, Option.map_some, done]
    rw [moved, isSite]
    exact ⟨Function.update_self .., rfl, isNow⟩
  · exact ⟨moves, reached.call, reached.site, reached.now⟩

/-- What a receiver brought is gone on with as in a turn. -/
theorem exists_moves_of_accept (worker : Nat) (tally : Tally) {receipt : Receipt}
    (perm : ∀ waiting, receipt = .waiting waiting →
      waiting.channels.Perm traffic.site.registry.channels) :
    ∃ moves, Reaches traffic.now worker (Turn.accept traffic.site traffic.now tally receipt)
      ((traffic.accept worker receipt).run clients moves) := by
  cases receipt with
  | nothing => exact ⟨[], Function.update_self .., rfl, rfl⟩
  | waiting waiting => exact ⟨[], ⟨Function.update_self .., perm waiting rfl⟩, rfl, rfl⟩
  | received source message =>
      rw [accept, serve, Turn.accept, Turn.dispatch]
      cases traffic.site.registry.consumer? source with
      | none => exact ⟨[], Function.update_self .., rfl, rfl⟩
      | some consumer =>
          apply Carries.follow
          exact ⟨⟨_, _, Function.update_self .., List.getElem?_concat_length, rfl⟩, rfl, rfl⟩

theorem exists_moves_cons {turn : Turn × Tally × Site} (first : Move) {next : Traffic}
    (moved : traffic.move clients first = next)
    (others : ∃ moves, Reaches now worker turn (next.run clients moves)) :
    ∃ moves, Reaches now worker turn (traffic.run clients moves) := by
  rcases others with ⟨moves, reached⟩
  refine ⟨first :: moves, ?_⟩
  rw [run, List.foldl_cons, moved]
  exact reached

/-- A worker begins a turn by moves. -/
theorem exists_moves_of_start (clients : Nat → Client) (traffic : Traffic) (worker : Nat)
    (idle : traffic.stations worker = .idle) (settings : WorkerSettings) (tally : Tally) :
    ∃ moves, Reaches traffic.now worker
      (Turn.start settings traffic.site traffic.now tally) (traffic.run clients moves) := by
  have looks : traffic.move clients (.look worker traffic.site.registry.channels settings.block) =
      traffic.look worker traffic.site.registry.channels settings.block :=
    if_pos (List.Perm.refl _)
  have concerns := traffic.site.backend.store.concerns_receive traffic.now
    traffic.site.registry.channels settings.block
  have spec := traffic.site.backend.receive_reaches_or_fails traffic.now
    traffic.site.registry.channels settings.block
  rw [look, idle] at looks
  rw [Turn.start]
  split
  · exact ⟨[], idle, rfl, rfl⟩
  · apply exists_moves_cons _ looks
    generalize traffic.site.backend.receive traffic.now traffic.site.registry.channels
      settings.block = received at spec ⊢
    rcases received with ⟨error | receipt, backend⟩
    · exact ⟨[], idle, rfl, rfl⟩
    · rcases spec with reached | ⟨error, impossible⟩
      · rw [← Except.ok.inj (Prod.mk.inj reached).1] at concerns
        refine @exists_moves_of_accept clients (traffic.withBackend backend) worker tally receipt ?_
        rintro waiting rfl
        exact .of_eq concerns
      · cases impossible

/-- A worker goes on with its turn by moves. -/
theorem exists_moves_of_resume (clients : Nat → Client) (traffic : Traffic) (worker : Nat)
    {turn : Turn} (inTurn : traffic.InTurn worker turn) (tally : Tally) :
    ∃ moves, Reaches traffic.now worker (turn.resume traffic.site traffic.now tally)
      (traffic.run clients moves) := by
  cases turn with
  | ended result => exact ⟨[], inTurn, rfl, rfl⟩
  | receiving waiting =>
      rcases waiting with ⟨channels, deadline, heard⟩
      rcases inTurn with ⟨waits, perm⟩
      have looks : traffic.move clients (.look worker channels true) =
          traffic.look worker channels true := if_pos perm
      have concerns := traffic.site.backend.store.concerns_resume traffic.now
        ⟨channels, deadline, heard⟩
      rw [look, waits] at looks
      dsimp only at looks
      rw [Turn.resume]
      rcases resumed : traffic.site.backend.resume traffic.now ⟨channels, deadline, heard⟩ with
        ⟨receipt, backend⟩
      have same : (traffic.site.backend.store.resume traffic.now ⟨channels, deadline, heard⟩).1 =
          receipt := congrArg Prod.fst resumed
      rw [same] at concerns
      rw [resumed] at looks
      apply exists_moves_cons _ looks
      dsimp only
      refine @exists_moves_of_accept clients (traffic.withBackend backend) worker tally receipt ?_
      rintro later rfl
      exact (List.Perm.of_eq concerns).trans perm
  | consuming wakeAt rest =>
      rw [Turn.resume]
      split
      case isFalse => exact ⟨[], inTurn, rfl, rfl⟩
      case isTrue due =>
          have carries : Carries traffic.now worker (.pausing wakeAt rest, traffic.site) traffic :=
            ⟨inTurn, rfl, rfl⟩
          have woken := carries.work clients
          have ready : Strand.advance traffic.now (.pausing wakeAt rest, traffic.site) =
              (.ready rest, traffic.site) := by
            rw [Strand.advance, Strand.step, if_pos due]
          rw [ready] at woken
          exact exists_moves_cons _ rfl (woken.follow tally)

end Courier.Http.Traffic
