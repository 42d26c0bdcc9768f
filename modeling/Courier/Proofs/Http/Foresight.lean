import Courier.Http.Interface
import Courier.Proofs.Store.Blocking
import Courier.Proofs.Store.Rounds

/-!
# Foreseeing the next reply

What a reader would come to who knew which messages are to arrive, and who had no other timer than
its own deadline: the first live message of its channel if there is one, else the first message that
arrives in the channel before the deadline, and else nothing. It is foreseen together with the
moment, and with what is left in the store.

As long as its channel is silent, such a reader changes nothing by looking again. This is why what
is foreseen at one moment is what is foreseen at the next moment at which something arrives.
-/

namespace Courier

/-- A message that arrives in a channel. -/
structure Incoming where
  moment : Instant
  channel : String
  message : Message

namespace Store

/-- Sends messages when they arrive. -/
def deliver (store : Store) (arrivals : List Incoming) : Store :=
  arrivals.foldl
    (fun store arrival => (store.send arrival.moment arrival.channel arrival.message).2) store

theorem deliver_cons (store : Store) (arrival : Incoming) (rest : List Incoming) :
    store.deliver (arrival :: rest) =
      (store.send arrival.moment arrival.channel arrival.message).2.deliver rest := rfl

theorem deliver_append (store : Store) (first second : List Incoming) :
    store.deliver (first ++ second) = (store.deliver first).deliver second := List.foldl_append

/-- A store has no queue for a channel. -/
def Silent (store : Store) (channel : String) : Prop := store.queues.find? channel = none

variable {store : Store} {now : Instant} {channel : String}

/-! ## Looking into one channel -/

theorem Silent.queue (silent : store.Silent channel) : store.queue channel = [] := by
  rw [Store.queue, silent]
  rfl

theorem Silent.live (silent : store.Silent channel) (now : Instant) :
    store.live now channel = [] := by
  rw [Store.live, silent.queue]
  rfl

/-- Looking into a silent channel finds nothing and changes nothing. -/
theorem Silent.take (silent : store.Silent channel) (now : Instant) :
    store.take now [channel] = (none, store) := by
  apply take_of_absent
  intro listed mem
  rw [List.mem_singleton.mp mem]
  exact silent

theorem take_of_live_nil (empty : store.live now channel = []) :
    store.take now [channel] = (none, (store.take now [channel]).2) := by
  rcases found : (store.take now [channel]).1 with _ | ⟨source, message⟩
  · exact Prod.ext found rfl
  · have isOwn := List.mem_singleton.mp (mem_of_take store now found)
    rw [isOwn] at found
    rcases live_of_take store now found with ⟨others, alive⟩
    rw [empty] at alive
    cases alive

theorem take_of_live_cons {message : Message} {others : List Message}
    (alive : store.live now channel = message :: others) :
    store.take now [channel] = (some (channel, message), (store.take now [channel]).2) := by
  rcases found : (store.take now [channel]).1 with _ | ⟨source, taken⟩
  · have silent := filter_live_of_take_none found List.mem_cons_self
    rw [live, silent] at alive
    cases alive
  · have isOwn := List.mem_singleton.mp (mem_of_take store now found)
    rw [isOwn] at found
    rcases live_of_take store now found with ⟨more, same⟩
    rw [alive] at same
    cases same
    exact Prod.ext found rfl

/-- After a look in vain the channel is silent. -/
theorem silent_of_live_nil (empty : store.live now channel = []) :
    (store.take now [channel]).2.Silent channel :=
  find?_take_none store now (congrArg Prod.fst (take_of_live_nil empty)) List.mem_cons_self

/-! ## Sending -/

variable (message : Message)

theorem live_send (other : String) :
    store.live now other <+: (store.send now channel message).2.live now other := by
  have same := (store.send_eq now channel message).2.2 other
  rw [live, live, same]
  exact live_push store now channel message other

theorem Silent.send_of_ne {other : String} (silent : store.Silent other) (differ : other ≠ channel)
    (now : Instant) : (store.send now channel message).2.Silent other := by
  have pushed : (store.push now channel message).2.Silent other := by
    rw [push]
    dsimp only
    split
    · exact (Assoc.find?_insert_of_ne _ _ differ).trans silent
    · exact (Assoc.find?_insert_of_ne _ _ differ).trans silent
  rw [Store.send]
  generalize store.push now channel message = result at pushed ⊢
  rcases result with ⟨_ | _, after⟩
  · exact pushed
  · exact pushed

/-- A silent channel has room for a message, which is alive at first. -/
theorem Silent.send (silent : store.Silent channel)
    (lasts : 0 < store.settings.messageExpiry) (now : Instant) :
    (store.send now channel message).1 = .ok () ∧
      (store.send now channel message).2.live now channel = [message] := by
  have room : full store.settings (trim now (store.queue channel)) = false := by
    rw [silent.queue, trim, List.dropWhile_nil, full, List.length_nil]
    cases store.settings.capacity with
    | zero => rfl
    | succ capacity => simp
  have same := store.send_eq now channel message
  rcases store.push_spec now channel message with ⟨isFull, -, -⟩ | ⟨-, accepted, step⟩
  · rw [room] at isFull
    cases isFull
  · refine ⟨same.1.trans accepted, ?_⟩
    have alive := step.filter_live_of_added
    rw [silent.queue, List.filter_nil, List.nil_append, List.filter_cons_of_pos] at alive
    · rw [Store.live, same.2.2, alive]
      rfl
    · rw [Queued.live_iff]
      exact Nat.lt_add_of_pos_right lasts

@[simp]
theorem settings_send : (store.send now channel message).2.settings = store.settings :=
  (store.send_eq now channel message).2.1

theorem le_announcements_send :
    store.announcements ≤ (store.send now channel message).2.announcements :=
  le_announcements_perform store now (.send channel message)

/-! ## Arrivals -/

variable {arrivals : List Incoming}

theorem settings_deliver : (store.deliver arrivals).settings = store.settings := by
  induction arrivals generalizing store with
  | nil => rfl
  | cons arrival rest ih =>
      rw [deliver_cons, ih]
      exact settings_send arrival.message

theorem le_announcements_deliver :
    store.announcements ≤ (store.deliver arrivals).announcements := by
  induction arrivals generalizing store with
  | nil => exact Nat.le_refl _
  | cons arrival rest ih =>
      exact Nat.le_trans (le_announcements_send arrival.message) ih

theorem live_deliver (together : ∀ arrival ∈ arrivals, arrival.moment = now) :
    store.live now channel <+: (store.deliver arrivals).live now channel := by
  induction arrivals generalizing store with
  | nil => exact List.prefix_refl _
  | cons arrival rest ih =>
      have isNow := together arrival List.mem_cons_self
      rw [deliver_cons, isNow]
      exact (live_send arrival.message channel).trans
        (ih fun other mem => together other (List.mem_cons_of_mem arrival mem))

/-- The first message that arrives in a silent channel comes to stand in front. -/
theorem Silent.deliver_of_some (silent : store.Silent channel)
    (lasts : 0 < store.settings.messageExpiry)
    (together : ∀ arrival ∈ arrivals, arrival.moment = now) {first : Incoming}
    (found : arrivals.find? (fun arrival => arrival.channel = channel) = some first) :
    ∃ others, (store.deliver arrivals).live now channel = first.message :: others := by
  induction arrivals generalizing store with
  | nil => cases found
  | cons arrival rest ih =>
      have isNow := together arrival List.mem_cons_self
      have restTogether := fun other mem => together other (List.mem_cons_of_mem arrival mem)
      rw [deliver_cons, isNow]
      by_cases own : arrival.channel = channel
      · subst own
        rw [List.find?_cons_of_pos (by simp)] at found
        have alive := (silent.send arrival.message lasts now).2
        have kept := alive ▸ live_deliver restTogether
        rcases kept with ⟨others, whole⟩
        rw [← Option.some.inj found]
        exact ⟨others, whole.symm⟩
      · rw [List.find?_cons_of_neg (by simpa using own)] at found
        refine ih (silent.send_of_ne arrival.message (Ne.symm own) now) ?_ restTogether found
        rw [settings_send]
        exact lasts

theorem Silent.deliver_of_none (silent : store.Silent channel)
    (elsewhere : ∀ arrival ∈ arrivals, arrival.channel ≠ channel) :
    (store.deliver arrivals).Silent channel := by
  induction arrivals generalizing store with
  | nil => exact silent
  | cons arrival rest ih =>
      have differ := elsewhere arrival List.mem_cons_self
      exact ih (silent.send_of_ne arrival.message (Ne.symm differ) arrival.moment)
        fun other mem => elsewhere other (List.mem_cons_of_mem arrival mem)

/-- A silent channel stays silent as long as nothing is announced. -/
theorem Silent.deliver_of_announcements (silent : store.Silent channel)
    (lasts : 0 < store.settings.messageExpiry)
    (unheard : (store.deliver arrivals).announcements = store.announcements) :
    (store.deliver arrivals).Silent channel := by
  apply silent.deliver_of_none
  induction arrivals generalizing store with
  | nil => nofun
  | cons arrival rest ih =>
      have grows : store.announcements ≤
          (store.send arrival.moment arrival.channel arrival.message).2.announcements :=
        le_announcements_send arrival.message
      have growsOn : (store.send arrival.moment arrival.channel arrival.message).2.announcements ≤
          ((store.send arrival.moment arrival.channel arrival.message).2.deliver
            rest).announcements :=
        le_announcements_deliver
      rw [deliver_cons] at unheard
      have differ : arrival.channel ≠ channel := by
        rintro rfl
        have announced := announcements_send store arrival.moment arrival.channel arrival.message
        rw [(silent.send arrival.message lasts arrival.moment).1] at announced
        exact absurd (announced ▸ growsOn.trans_eq unheard) (Nat.not_succ_le_self _)
      intro other mem
      rcases List.mem_cons.mp mem with rfl | later
      · exact differ
      · refine ih (silent.send_of_ne arrival.message (Ne.symm differ) arrival.moment) ?_ ?_ other
          later
        · rw [settings_send]
          exact lasts
        · omega

end Store

namespace Http

/-- What is foreseen of a reading: what it comes to, when, and what is left in the store then. -/
structure Foreseen where
  read : Read
  moment : Instant
  store : Store

/-- Foresees what reading from a channel up to a deadline comes to. -/
def foresee (store : Store) (now : Instant) (channel : String) (deadline : Instant)
    (arrivals : List Incoming) : Foreseen :=
  let looked := (store.take now [channel]).2
  let inTime := arrivals.filter fun arrival => arrival.moment < deadline
  match store.live now channel with
  | message :: _ => ⟨.message message, now, looked⟩
  | [] =>
      match inTime.find? fun arrival => arrival.channel = channel with
      | some first =>
          let arrived := looked.deliver (inTime.filter fun other => other.moment ≤ first.moment)
          ⟨.message first.message, first.moment, (arrived.take first.moment [channel]).2⟩
      | none => ⟨.failed (.responseTimeout channel), deadline, looked.deliver inTime⟩

variable {store : Store} {now : Instant} {channel : String} {deadline : Instant}
  {arrivals : List Incoming}

theorem foresee_of_live {message : Message} {others : List Message}
    (alive : store.live now channel = message :: others) :
    foresee store now channel deadline arrivals =
      ⟨.message message, now, (store.take now [channel]).2⟩ := by
  rw [foresee, alive]

theorem foresee_of_late (empty : store.live now channel = [])
    (late : ∀ arrival ∈ arrivals, deadline ≤ arrival.moment) :
    foresee store now channel deadline arrivals =
      ⟨.failed (.responseTimeout channel), deadline, (store.take now [channel]).2⟩ := by
  have none : (arrivals.filter fun arrival => arrival.moment < deadline) = [] := by
    rw [List.filter_eq_nil_iff]
    intro arrival mem
    simpa using late arrival mem
  rw [foresee, empty]
  dsimp only
  rw [none]
  rfl

theorem filter_append_of_due {due rest : List Incoming} {moment : Instant}
    (allDue : ∀ arrival ∈ due, arrival.moment ≤ moment) :
    (due ++ rest).filter (fun arrival => arrival.moment ≤ moment) =
      due ++ rest.filter fun arrival => arrival.moment ≤ moment := by
  rw [List.filter_append]
  congr 1
  rw [List.filter_eq_self]
  intro arrival mem
  exact decide_eq_true (allDue arrival mem)

/-- What is foreseen stays the same up to the next moment at which messages arrive. -/
theorem foresee_next (empty : store.live now channel = [])
    (lasts : 0 < store.settings.messageExpiry) {moment : Instant} (early : moment < deadline)
    {due rest : List Incoming} (together : ∀ arrival ∈ due, arrival.moment = moment)
    (later : ∀ arrival ∈ rest, moment < arrival.moment) :
    foresee store now channel deadline (due ++ rest) =
      foresee ((store.take now [channel]).2.deliver due) moment channel deadline rest := by
  have silent := Store.silent_of_live_nil empty
  have lasting : 0 < (store.take now [channel]).2.settings.messageExpiry := by
    rw [Store.settings_take]
    exact lasts
  generalize looked_eq : (store.take now [channel]).2 = looked at silent lasting
  have allInTime : due.filter (fun arrival => arrival.moment < deadline) = due := by
    rw [List.filter_eq_self]
    intro arrival mem
    rw [together arrival mem]
    exact decide_eq_true early
  rw [foresee, empty]
  dsimp only
  rw [looked_eq, List.filter_append, allInTime, List.find?_append]
  generalize inTime_eq : rest.filter (fun arrival => arrival.moment < deadline) = inTime
  have laterInTime : ∀ arrival ∈ inTime, moment < arrival.moment := by
    intro arrival mem
    rw [← inTime_eq] at mem
    exact later arrival (List.mem_filter.mp mem).1
  cases found : due.find? (fun arrival => arrival.channel = channel) with
  | some first =>
      -- the message that is foreseen is among those that arrive next
      rcases silent.deliver_of_some lasting together found with ⟨others, alive⟩
      have isNext := together first (List.mem_of_find?_eq_some found)
      have noneLater : inTime.filter (fun other => other.moment ≤ moment) = [] := by
        rw [List.filter_eq_nil_iff]
        intro arrival mem
        simpa using laterInTime arrival mem
      rw [foresee_of_live alive, Option.some_or]
      dsimp only
      rw [isNext, filter_append_of_due fun arrival mem => Nat.le_of_eq (together arrival mem),
        noneLater, List.append_nil]
  | none =>
      have elsewhere : ∀ arrival ∈ due, arrival.channel ≠ channel := by
        intro arrival mem
        simpa using List.find?_eq_none.mp found arrival mem
      have still := silent.deliver_of_none elsewhere
      rw [foresee, still.live, still.take, Option.none_or, inTime_eq]
      dsimp only
      cases foundLater : inTime.find? (fun arrival => arrival.channel = channel) with
      | none =>
          dsimp only
          rw [Store.deliver_append]
      | some first =>
          have isLater := laterInTime first (List.mem_of_find?_eq_some foundLater)
          have allDue : ∀ arrival ∈ due, arrival.moment ≤ first.moment := fun arrival mem =>
            together arrival mem ▸ Nat.le_of_lt isLater
          dsimp only
          rw [filter_append_of_due allDue, Store.deliver_append]

end Http

end Courier
