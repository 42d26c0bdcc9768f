import Courier.Proofs.Http.Reception

/-!
# A client comes to a result

A client that reads needs nobody else to come to an end. Once everything that has arrived is
announced, each of its steps reads a message as long as there is one; when there is none, it is
given up at its deadline, at most one step later than it is due. So a run can always be brought to a
result by the client and by time, with nothing expiring unread on the way.
-/

namespace Courier.Http.Reception

/-- A move with which nothing arrives and nobody else does anything. -/
def Move.Own : Move → Prop
  | .wait _ | .announce | .read => True
  | .arrive _ | .other _ => False

/-- Moves that bring a client to a result, in time and without anybody else. -/
structure Finishing (reception : Reception) (moves : List Move) : Prop where
  own : ∀ move ∈ moves, move.Own
  prompt : reception.Prompt moves
  ended : ∃ result, (reception.run moves).exchange.result? = some result

variable {reception : Reception} {log : List LogEntry} {moves more : List Move}

theorem arrived_move_of_own {move : Move} (own : move.Own) :
    (reception.move move).arrived = reception.arrived := by
  cases move with
  | wait duration => rfl
  | announce => rfl
  | read => rfl
  | arrive message => exact absurd own id
  | other call => exact absurd own id

theorem arrived_run_of_own (own : ∀ move ∈ moves, move.Own) :
    (reception.run moves).arrived = reception.arrived := by
  induction moves generalizing reception with
  | nil => rfl
  | cons move rest ih =>
      have later : (reception.run (move :: rest)).arrived = (reception.move move).arrived :=
        ih fun other mem => own other (List.mem_cons_of_mem _ mem)
      rw [later, arrived_move_of_own (own move List.mem_cons_self)]

/-! ## Putting moves together -/

namespace Finishing

theorem nil {result : Except Error NativeResponse}
    (ended : reception.exchange.result? = some result) : Finishing reception [] := by
  refine ⟨fun _ mem => absurd mem List.not_mem_nil, ⟨?_, ?_⟩, result, ended⟩
  · intro before le
    cases List.prefix_nil.mp le
    intro reads
    have isOver := reading?_of_stage (Exchange.stage_of_result? ended)
    change reception.exchange.reading?.isSome = true at reads
    rw [isOver] at reads
    cases reads
  · intro before le
    exact absurd (List.prefix_nil.mp le) (List.append_ne_nil_of_right_ne_nil _ (by simp))

theorem cons (move : Move) (own : move.Own) (alive : reception.Alive)
    (inTime : move = .read → reception.InTime reception.arrived)
    (rest : Finishing (reception.move move) moves) : Finishing reception (move :: moves) := by
  have all : (reception.run (move :: moves)).arrived = reception.arrived :=
    (arrived_run_of_own rest.own).trans (arrived_move_of_own own)
  refine ⟨?_, ⟨?_, ?_⟩, rest.ended⟩
  · intro other mem
    rcases List.mem_cons.mp mem with rfl | mem
    · exact own
    · exact rest.own other mem
  · intro before le
    rcases List.prefix_cons_iff.mp le with rfl | ⟨tail, rfl, tailLe⟩
    · exact alive
    · exact rest.prompt.alive tail tailLe
  · intro before le
    rw [all]
    cases before with
    | nil => exact inTime (List.cons_prefix_cons.mp le).1.symm
    | cons first tail =>
        rcases List.cons_prefix_cons.mp le with ⟨rfl, tailLe⟩
        have later := rest.prompt.inTime tail tailLe
        rw [arrived_run_of_own rest.own, arrived_move_of_own own] at later
        exact later

end Finishing

theorem Prompt.append (prompt : reception.Prompt moves)
    (finishing : Finishing (reception.run moves) more) : reception.Prompt (moves ++ more) := by
  have whole : (reception.run (moves ++ more)).arrived = (reception.run moves).arrived := by
    rw [run_append, arrived_run_of_own finishing.own]
  refine ⟨?_, ?_⟩
  · intro before le
    rcases List.prefix_or_prefix_of_prefix le (List.prefix_append moves more) with
      early | ⟨tail, rfl⟩
    · exact prompt.alive before early
    · rw [run_append]
      exact finishing.prompt.alive tail ((List.prefix_append_right_inj moves).mp le)
  · intro before le
    rw [whole]
    rcases List.prefix_or_prefix_of_prefix le (List.prefix_append moves more) with early | late
    · exact prompt.inTime before early
    · -- the read is the last of the earlier moves, or it is one of those that finish
      rcases List.prefix_concat_iff.mp late with same | ⟨tail, rfl⟩
      · apply prompt.inTime before
        refine ⟨[], ?_⟩
        rw [List.append_nil, same]
      · rw [List.append_assoc] at le
        have later := finishing.prompt.inTime tail ((List.prefix_append_right_inj moves).mp le)
        rw [arrived_run_of_own finishing.own] at later
        rw [run_append]
        exact later

/-! ## A client on its own -/

theorem inTime_of_announced (all : reception.announced = reception.arrived.length) :
    reception.InTime reception.arrived := by
  intro reading _ _ more
  rw [all]
  exact more

theorem alive_of_nil (empty : reception.store.queue reception.channel = []) : reception.Alive := by
  intro _ queued mem
  rw [empty] at mem
  exact absurd mem List.not_mem_nil

namespace Open

variable {reading : Reading}

theorem alive_took (opened : Open log reception reading) (alive : reception.Alive) {read : Read}
    {backend : Backend}
    (steps : Reading.Steps reception.site.backend reception.now reception.channel reading read
      backend) : (reception.took read backend).Alive := by
  intro _ queued mem
  rw [Reception.store, took, Site.backend_reportAll] at mem
  exact opened.alive alive queued (steps.queue.sublist.subset mem)

/-- With an empty channel a reading gives up at its deadline, or it has waited in the backend and
asks once more. -/
theorem read_of_late (opened : Open log reception reading)
    (empty : reception.store.queue reception.channel = [])
    (all : reception.announced = reception.arrived.length)
    (late : reading.deadline ≤ reception.now) :
    (∃ result, Over log reception.arrived (reception.move .read) result) ∨
      (∃ receiver, reading = .waiting reading.deadline receiver) ∧
        Open log (reception.move .read) (.asking reading.deadline) ∧
        (reception.move .read).store.queue (reception.move .read).channel = [] := by
  have alive := alive_of_nil empty
  have silent : reception.store.live reception.now reception.channel = [] := by
    rw [Store.live, empty]
    rfl
  have whole := opened.read_eq_of_late alive (inTime_of_announced all) (List.prefix_refl _) late
    (Or.inr silent)
  have steps := @Reading.steps_step _ reception.now _ opened.reliable _ opened.attends.listens
  rw [opened.move_read]
  generalize reading.step reception.site.backend reception.now reception.channel = stepped at steps ⊢
  rcases stepped with ⟨read, backend⟩
  have comes := steps.comes
  have conserved := steps.queue.split_of_alive (opened.alive alive)
  change (reception.store.queue reception.channel).map Queued.message = _ at conserved
  rw [empty] at conserved
  cases comes with
  | message message => cases conserved
  | gaveUp _ _ => exact Or.inl ⟨_, opened.took_failed whole⟩
  | waits early _ _ _ => exact absurd late (Nat.not_le.mpr early)
  | @askAgain receiver waited vain =>
      refine Or.inr ⟨⟨receiver, waited⟩, opened.took_reading alive steps ?_ False.elim, ?_⟩
      · exact fun _ _ impossible => Reading.noConfusion impossible
      rw [Reception.store, took, Site.backend_reportAll]
      exact List.map_eq_nil_iff.mp conserved.symm

end Open

theorem finishing_of_over {messages : List Message} {result : Except Error NativeResponse}
    (isOver : Over log messages reception result) : Finishing reception [] :=
  Finishing.nil (Exchange.result?_of_stage isOver.stage)

namespace Open

variable {reading : Reading}

theorem finishes_of_late (opened : Open log reception reading)
    (empty : reception.store.queue reception.channel = [])
    (all : reception.announced = reception.arrived.length)
    (late : reading.deadline ≤ reception.now) : ∃ moves, Finishing reception moves := by
  have first : ∀ {rest}, Finishing (reception.move .read) rest →
      Finishing reception (.read :: rest) :=
    Finishing.cons .read trivial (alive_of_nil empty) fun _ => inTime_of_announced all
  rcases opened.read_of_late empty all late with ⟨result, isOver⟩ | ⟨-, asks, stillEmpty⟩
  · exact ⟨_, first (finishing_of_over isOver)⟩
  · rcases asks.read_of_late stillEmpty all late with ⟨result, isOver⟩ | ⟨⟨receiver, impossible⟩, -⟩
    · refine ⟨_, first (Finishing.cons .read trivial (alive_of_nil stillEmpty) ?_
        (finishing_of_over isOver))⟩
      intro _
      exact inTime_of_announced all
    · cases impossible

/-- With an empty channel a client waits for its deadline. -/
theorem finishes_of_nil (opened : Open log reception reading)
    (empty : reception.store.queue reception.channel = [])
    (all : reception.announced = reception.arrived.length) :
    ∃ moves, Finishing reception moves := by
  have waited := opened.wait (reading.deadline - reception.now)
  have late : reading.deadline ≤ reception.now + (reading.deadline - reception.now) :=
    Nat.sub_le_iff_le_add'.mp (Nat.le_refl _)
  rcases waited.finishes_of_late empty all late with ⟨moves, finishing⟩
  exact ⟨_, Finishing.cons (.wait _) trivial (alive_of_nil empty) nofun finishing⟩

/-- A client to which everything was announced reads what there is, message by message. -/
theorem finishes_of_announced (opened : Open log reception reading) (alive : reception.Alive)
    (all : reception.announced = reception.arrived.length) :
    ∃ moves, Finishing reception moves := by
  -- every step reads a message, so what waits in the channel gets less
  generalize waiting : (reception.store.queue reception.channel).length = count
  induction count using Nat.strongRecOn generalizing reception reading with
  | ind count ih =>
      by_cases empty : reception.store.queue reception.channel = []
      · exact opened.finishes_of_nil empty all
      · have fresh : ¬reading.HeardAll reception.store := by
          intro heardAll
          have announced := opened.informed heardAll
          rw [all, opened.arrived, List.length_append, List.length_map] at announced
          exact empty (List.length_eq_zero_iff.mp (by omega))
        have some : reception.store.live reception.now reception.channel ≠ [] := by
          rw [Store.live, List.filter_eq_self.mpr (opened.alive alive)]
          exact fun none => empty (List.map_eq_nil_iff.mp none)
        have steps := @Reading.steps_step _ reception.now _ opened.reliable _ opened.attends.listens
        have first : ∀ {rest}, Finishing (reception.move .read) rest →
            Finishing reception (.read :: rest) :=
          Finishing.cons .read trivial alive fun _ => inTime_of_announced all
        rw [opened.move_read] at first
        generalize reading.step reception.site.backend reception.now reception.channel = stepped
          at steps first
        rcases stepped with ⟨read, backend⟩
        rcases steps.comes.message_of_live fresh some with ⟨message, rfl⟩
        have conserved := steps.queue.split_of_alive (opened.alive alive)
        rcases opened.took_message alive (List.prefix_refl _) steps with
          ⟨next, goesOn⟩ | ⟨result, isOver⟩
        · have fewer := congrArg List.length conserved
          have store : (reception.took (.message message) backend).store = backend.store := by
            rw [Reception.store, took, Site.backend_reportAll]
          change ((reception.store.queue reception.channel).map Queued.message).length =
            ([message] ++ (backend.store.queue reception.channel).map Queued.message).length at fewer
          rw [List.length_append, List.length_map, List.length_map] at fewer
          rcases ih ((reception.took (.message message) backend).store.queue
            reception.channel).length (by
              rw [store, ← waiting, fewer, List.length_singleton]
              omega) goesOn (opened.alive_took alive steps) all rfl with ⟨rest, finishing⟩
          exact ⟨_, first finishing⟩
        · exact ⟨_, first (finishing_of_over isOver)⟩

theorem finishes (opened : Open log reception reading) (alive : reception.Alive) :
    ∃ moves, Finishing reception moves := by
  rcases opened.announce.finishes_of_announced alive rfl with ⟨moves, finishing⟩
  exact ⟨_, Finishing.cons .announce trivial alive nofun finishing⟩

end Open

theorem Sound.finishes {messages : List Message} (sound : Sound log messages reception)
    (alive : reception.Alive) : ∃ moves, Finishing reception moves := by
  rcases sound with ⟨reading, opened⟩ | ⟨result, isOver⟩
  · exact opened.finishes alive
  · exact ⟨[], finishing_of_over isOver⟩

end Courier.Http.Reception
