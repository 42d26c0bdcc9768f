import Courier.Proofs.Lists
import Courier.Proofs.Socket.Dispatching
import Mathlib.Data.List.TakeWhile

/-!
# Queues of registrations

What becomes of a directory while channels are registered and taken out of it, frames are
dispatched, and queues are read and given up, in any order. Every registration opens a queue. It
lasts until the channel is taken out of the directory or registered anew, and as long as it lasts the
channel leads to this queue and nowhere else.

A queue may outlive its registration: what is left in it can still be taken. And a registration may
outlive the one who takes from its queue: then every frame for the channel is refused. So one has to
know what happened since the queue was opened. It *agrees* with these events if what was taken from
it, with what is left in it, is what was accepted for its channel while the registration lasted.
-/

namespace Courier.Socket.Directory

/-- Something that is done with a directory or with one of its queues. -/
inductive Call where
  | register (channel : String)
  | unregister (channel : String)
  | dispatch (channel : String) (frame : Frame)
  | receive (number : Nat)
  | detach (number : Nat)

/-- What was done, and what came of it. -/
inductive Event where
  | registered (channel : String) (number : Nat)
  | unregistered (channel : String) (found : Bool)
  | dispatched (channel : String) (frame : Frame) (result : Except Error Unit)
  | received (number : Nat) (retrieval : Retrieval)
  | detached (number : Nat)

/-- Does something with a directory. -/
def perform (directory : Directory) : Call → Event × Directory
  | .register channel =>
      let (number, directory) := directory.register channel
      (.registered channel number, directory)
  | .unregister channel =>
      let (found, directory) := directory.unregister channel
      (.unregistered channel found, directory)
  | .dispatch channel frame =>
      let (result, directory) := directory.dispatch channel frame
      (.dispatched channel frame result, directory)
  | .receive number =>
      let (retrieval, directory) := directory.receive number
      (.received number retrieval, directory)
  | .detach number => (.detached number, directory.detach number)

/-- A directory and what happened to it so far. -/
structure Record where
  directory : Directory
  events : List Event := []

namespace Record

/-- Does something and notes what came of it. -/
def note (record : Record) (call : Call) : Record :=
  let (event, directory) := record.directory.perform call
  ⟨directory, record.events ++ [event]⟩

/-- The record of several calls to a directory that was empty at first. -/
def ofCalls (depth : Nat) (calls : List Call) : Record :=
  calls.foldl note ⟨ofDepth depth, []⟩

end Record

/-! ## Events -/

namespace Event

/-- The frame that was put at the end of the queue of a channel. -/
def accepted? (channel : String) : Event → Option Frame
  | .dispatched other frame (.ok ()) => if other = channel then some frame else none
  | _ => none

/-- The frame that was taken from a queue. -/
def yielded? (number : Nat) : Event → Option Frame
  | .received other (.frame frame) => if other = number then some frame else none
  | _ => none

/-- A channel is registered anew or taken out of the directory. -/
def ends (channel : String) : Event → Bool
  | .registered other _ | .unregistered other _ => other = channel
  | _ => false

theorem accepted?_of_ends {channel : String} {event : Event} (ends : event.ends channel = true) :
    event.accepted? channel = none := by
  cases event with
  | registered | unregistered => rfl
  | dispatched | received | detached => cases ends

end Event

/-- The frames that were taken from a queue. -/
def yielded (number : Nat) (events : List Event) : List Frame :=
  events.filterMap (Event.yielded? number)

/-- No event ends the registration of a channel. -/
def Standing (channel : String) (events : List Event) : Prop :=
  ∀ event ∈ events, event.ends channel = false

/-- The frames that were accepted for a channel before its registration came to an end. -/
def accepted (channel : String) (events : List Event) : List Frame :=
  (events.takeWhile fun event => !event.ends channel).filterMap (Event.accepted? channel)

section Events

variable {channel : String} {events : List Event} {event : Event}

theorem yielded_concat (number : Nat) (events : List Event) (event : Event) :
    yielded number (events ++ [event]) =
      yielded number events ++ (event.yielded? number).toList := by
  rw [yielded, List.filterMap_append]
  cases taken : event.yielded? number <;> simp [taken, yielded]

theorem standing_nil (channel : String) : Standing channel [] := nofun

theorem standing_concat :
    Standing channel (events ++ [event]) ↔
      Standing channel events ∧ event.ends channel = false := by
  simp only [Standing, List.mem_append, List.mem_singleton]
  constructor
  · intro standing
    exact ⟨fun other mem => standing other (Or.inl mem), standing event (Or.inr rfl)⟩
  · rintro ⟨standing, last⟩ other (mem | rfl)
    · exact standing other mem
    · exact last

theorem accepted_concat_of_standing (standing : Standing channel events) :
    accepted channel (events ++ [event]) =
      accepted channel events ++ (event.accepted? channel).toList := by
  have all : ∀ other ∈ events, (!other.ends channel) = true := fun other mem => by
    rw [standing other mem]
    rfl
  rw [accepted, accepted, List.takeWhile_append_of_pos all, List.takeWhile_eq_self_iff.mpr all,
    List.filterMap_append]
  cases ends : event.ends channel with
  | true => simp [ends, Event.accepted?_of_ends ends]
  | false => cases taken : event.accepted? channel <;> simp [ends, taken]

/-- Once a registration has ended nothing more is accepted for it. -/
theorem accepted_concat_of_not_standing (ended : ¬Standing channel events) :
    accepted channel (events ++ [event]) = accepted channel events := by
  induction events with
  | nil => exact absurd (standing_nil channel) ended
  | cons first rest ih =>
      cases ends : first.ends channel with
      | true => simp [accepted, ends]
      | false =>
          have later : ¬Standing channel rest := by
            intro standing
            apply ended
            rintro other (_ | ⟨_, mem⟩)
            · exact ends
            · exact standing other mem
          have same := ih later
          simp only [accepted] at same
          simp [accepted, ends, List.filterMap_cons, same]

theorem accepted_concat_of_none (none : event.accepted? channel = none) :
    accepted channel (events ++ [event]) = accepted channel events := by
  by_cases standing : Standing channel events
  · rw [accepted_concat_of_standing standing, none, Option.toList_none, List.append_nil]
  · exact accepted_concat_of_not_standing standing

end Events

/-! ## What a call comes to -/

variable {directory : Directory} {channel : String} {number : Nat} {outbox : Outbox}

/-- What a call to a directory comes to: an event, and the directory behind it. -/
inductive Performs (directory : Directory) : Event × Directory → Prop
  | registered (channel : String) :
      Performs directory
        (.registered channel directory.outboxes.length, (directory.enter channel).announce)
  | unregistered (channel : String) (found : Bool) :
      Performs directory
        (.unregistered channel found,
          { directory with owners := directory.owners.erase channel })
  | accepted {channel : String} {number : Nat} {outbox : Outbox}
      (leads : directory.Leads channel number outbox)
      (room : outbox.frames.length < directory.depth) (frame : Frame) :
      Performs directory (.dispatched channel frame (.ok ()), directory.enqueue number [frame])
  | refused (channel : String) (frame : Frame) (error : Error) :
      Performs directory (.dispatched channel frame (.error error), directory)
  | taken {number : Nat} {frame : Frame} {rest : List Frame} {attached : Bool}
      (opened : directory.outboxes[number]? = some ⟨frame :: rest, attached⟩) :
      Performs directory
        (.received number (.frame frame),
          { directory with outboxes := directory.outboxes.set number ⟨rest, attached⟩ })
  | nothing {retrieval : Retrieval} (number : Nat) (none : ∀ frame, retrieval ≠ .frame frame) :
      Performs directory (.received number retrieval, directory)
  | detached (number : Nat) :
      Performs directory (.detached number, directory.detach number)

theorem performs_dispatch (directory : Directory) (channel : String) (frame : Frame) :
    Performs directory (directory.perform (.dispatch channel frame)) := by
  rw [perform]
  rcases directory.astray_or_leads channel with astray | ⟨number, outbox, leads⟩
  · rw [dispatch_of_astray astray]
    exact .refused channel frame _
  · by_cases room : outbox.frames.length < directory.depth
    · rw [dispatch_of_room leads room]
      exact .accepted leads room frame
    · rw [dispatch_of_full leads (Nat.not_lt.mp room)]
      exact .refused channel frame _

theorem performs_receive (directory : Directory) (number : Nat) :
    Performs directory (directory.perform (.receive number)) := by
  rw [perform]
  rcases directory.receive_spec number with
    ⟨frame, rest, attached, opened, received⟩ | ⟨retrieval, nothing, received⟩
  · rw [received]
    exact .taken opened
  · rw [received]
    exact .nothing number nothing

theorem performs (directory : Directory) (call : Call) :
    Performs directory (directory.perform call) := by
  cases call with
  | register channel => exact .registered channel
  | unregister channel => exact .unregistered channel _
  | dispatch channel frame => exact directory.performs_dispatch channel frame
  | receive number => exact directory.performs_receive number
  | detach number => exact .detached number

/-! ## Bounds -/

/-- No queue holds more frames than it may. -/
def Bounded (directory : Directory) : Prop :=
  ∀ (number : Nat) (outbox : Outbox), directory.outboxes[number]? = some outbox →
    outbox.frames.length ≤ directory.depth

theorem Performs.depth {event : Event} {after : Directory}
    (performs : Performs directory (event, after)) : after.depth = directory.depth := by
  cases performs <;> rfl

theorem Performs.bounded {event : Event} {after : Directory}
    (performs : Performs directory (event, after)) (bounded : directory.Bounded) :
    after.Bounded := by
  cases performs with
  | registered channel =>
      intro number outbox opened
      change (directory.outboxes ++ [({} : Outbox)])[number]? = some outbox at opened
      rcases List.mem_append.mp (List.mem_of_getElem? opened) with old | new
      · rcases List.getElem?_of_mem old with ⟨index, opened⟩
        exact bounded index outbox opened
      · rw [List.mem_singleton.mp new]
        exact Nat.zero_le _
  | unregistered | refused | nothing => exact bounded
  | accepted leads room frame =>
      rename_i owner held
      intro number outbox opened
      by_cases same : number = owner
      · subst same
        rw [getElem?_enqueue_self leads.opened, Option.some.injEq] at opened
        rw [← opened, List.length_append, List.length_singleton]
        exact room
      · rw [getElem?_enqueue_of_ne same] at opened
        exact bounded number outbox opened
  | taken held =>
      intro number outbox opened
      rcases getElem?_set_cases opened with ⟨_, rfl⟩ | ⟨_, old⟩
      · have before := bounded _ _ held
        rw [List.length_cons] at before
        exact Nat.le_of_succ_le before
      · exact bounded number outbox old
  | detached =>
      intro number outbox opened
      rcases getElem?_set_cases opened with ⟨_, rfl⟩ | ⟨_, old⟩
      · exact Nat.zero_le _
      · exact bounded number outbox old

/-! ## A queue and its registration -/

/-- A channel leads to a queue until its registration ends, and no other channel does. -/
structure Owned (directory : Directory) (channel : String) (number : Nat) (since : List Event) :
    Prop where
  standing : directory.owners.find? channel = some number ↔ Standing channel since
  alone : ∀ other, directory.owners.find? other = some number → other = channel

/-- A queue agrees with what happened since a channel was registered and got it. -/
structure Agrees (directory : Directory) (channel : String) (number : Nat) (since : List Event)
    (outbox : Outbox) : Prop where
  opened : directory.outboxes[number]? = some outbox
  owned : directory.Owned channel number since
  /-- Somebody takes from the queue as long as nobody has given it up. -/
  attached : outbox.attached = true ↔ .detached number ∉ since
  /-- What was taken and what is left was accepted, in this order, and the rest is lost. -/
  order : yielded number since ++ outbox.frames <+: accepted channel since
  /-- Nothing is lost before the queue is given up. -/
  complete : outbox.attached = true → yielded number since ++ outbox.frames = accepted channel since

section Step

variable {since : List Event} {event : Event} {after : Directory}

theorem Owned.register (channel : String)
    (fresh : ∀ other, directory.owners.find? other ≠ some directory.outboxes.length) :
    (directory.enter channel).announce.Owned channel directory.outboxes.length [] where
  standing := ⟨fun _ => standing_nil channel, fun _ => Assoc.find?_insert_self _ _ _⟩
  alone other found := by
    rcases Assoc.find?_insert_cases found with ⟨same, _⟩ | ⟨_, before⟩
    · exact same
    · exact absurd before (fresh other)

theorem Owned.goesOn (owned : directory.Owned channel number since)
    (same : after.owners = directory.owners) (goesOn : event.ends channel = false) :
    after.Owned channel number (since ++ [event]) := by
  constructor
  · rw [same, standing_concat, goesOn, owned.standing]
    exact (and_iff_left rfl).symm
  · rw [same]
    exact owned.alone

theorem Owned.registered (owned : directory.Owned channel number since)
    (bound : number < directory.outboxes.length) (other : String) :
    (directory.enter other).announce.Owned channel number
      (since ++ [.registered other directory.outboxes.length]) := by
  have still : ∀ name, (directory.enter other).announce.owners.find? name = some number →
      name ≠ other ∧ directory.owners.find? name = some number := by
    intro name found
    rcases Assoc.find?_insert_cases found with ⟨_, isNew⟩ | before
    · omega
    · exact before
  constructor
  · rw [standing_concat, ← owned.standing]
    constructor
    · intro found
      rcases still channel found with ⟨differ, before⟩
      exact ⟨before, decide_eq_false differ.symm⟩
    · rintro ⟨before, goesOn⟩
      have differ : other ≠ channel := of_decide_eq_false goesOn
      exact (Assoc.find?_insert_of_ne _ _ differ.symm).trans before
  · intro name found
    exact owned.alone name (still name found).2

theorem Owned.unregistered (owned : directory.Owned channel number since) (other : String)
    (found : Bool) :
    Owned { directory with owners := directory.owners.erase other } channel number
      (since ++ [.unregistered other found]) := by
  constructor
  · rw [standing_concat, ← owned.standing]
    constructor
    · intro found
      rcases Assoc.find?_of_find?_erase found with ⟨differ, before⟩
      exact ⟨before, decide_eq_false differ.symm⟩
    · rintro ⟨before, goesOn⟩
      have differ : other ≠ channel := of_decide_eq_false goesOn
      exact (Assoc.find?_erase_of_ne _ differ.symm).trans before
  · intro name found
    exact owned.alone name (Assoc.find?_of_find?_erase found).2

theorem Agrees.register (channel : String)
    (fresh : ∀ other, directory.owners.find? other ≠ some directory.outboxes.length) :
    (directory.enter channel).announce.Agrees channel directory.outboxes.length [] {} where
  opened := List.getElem?_concat_length
  owned := Owned.register channel fresh
  attached := ⟨fun _ => List.not_mem_nil, fun _ => rfl⟩
  order := List.prefix_rfl
  complete _ := rfl

/-- A queue goes on agreeing with what happens elsewhere. -/
theorem Agrees.elsewhere (agrees : directory.Agrees channel number since outbox)
    (opened : after.outboxes[number]? = some outbox)
    (owned : after.Owned channel number (since ++ [event])) (kept : event ≠ .detached number)
    (nothingTaken : event.yielded? number = none)
    (nothingAccepted : accepted channel (since ++ [event]) = accepted channel since) :
    after.Agrees channel number (since ++ [event]) outbox := by
  have same : yielded number (since ++ [event]) = yielded number since := by
    rw [yielded_concat, nothingTaken, Option.toList_none, List.append_nil]
  have notDetached : Event.detached number ∉ since ++ [event] ↔ .detached number ∉ since := by
    simp [Ne.symm kept]
  refine ⟨opened, owned, agrees.attached.trans notDetached.symm, ?_, ?_⟩
  · rw [same, nothingAccepted]
    exact agrees.order
  · rw [same, nothingAccepted]
    exact agrees.complete

/-- A frame that is accepted comes to the queue if its channel leads there. -/
theorem Agrees.dispatched (agrees : directory.Agrees channel number since outbox) {other : String}
    {owner : Nat} {held : Outbox} (leads : directory.Leads other owner held) (frame : Frame) :
    ∃ outbox, (directory.enqueue owner [frame]).Agrees channel number
      (since ++ [.dispatched other frame (.ok ())]) outbox := by
  by_cases same : owner = number
  · subst same
    cases agrees.owned.alone other leads.registered
    have isHeld := agrees.opened
    rw [leads.opened, Option.some.injEq] at isHeld
    subst isHeld
    have whole : yielded owner (since ++ [.dispatched channel frame (.ok ())]) ++
        (held.frames ++ [frame]) =
          accepted channel (since ++ [.dispatched channel frame (.ok ())]) := by
      rw [accepted_concat_of_standing (agrees.owned.standing.mp leads.registered),
        ← agrees.complete leads.attached, yielded_concat]
      simp [Event.yielded?, Event.accepted?]
    refine ⟨_, getElem?_enqueue_self leads.opened [frame], agrees.owned.goesOn rfl rfl, ?_, ?_,
      fun _ => whole⟩
    · simpa using agrees.attached
    · exact whole ▸ List.prefix_rfl
  · have nothingAccepted : accepted channel (since ++ [.dispatched other frame (.ok ())]) =
        accepted channel since := by
      by_cases name : other = channel
      · subst name
        apply accepted_concat_of_not_standing
        rw [← agrees.owned.standing, leads.registered, Option.some.injEq]
        exact same
      · exact accepted_concat_of_none (if_neg name)
    refine ⟨outbox, agrees.elsewhere ?_ (agrees.owned.goesOn rfl rfl) nofun rfl nothingAccepted⟩
    exact (getElem?_enqueue_of_ne (Ne.symm same) [frame]).trans agrees.opened

theorem Agrees.taken (agrees : directory.Agrees channel number since outbox) {other : Nat}
    {frame : Frame} {rest : List Frame} {attached : Bool}
    (held : directory.outboxes[other]? = some ⟨frame :: rest, attached⟩) :
    ∃ outbox, Agrees
      { directory with outboxes := directory.outboxes.set other ⟨rest, attached⟩ } channel number
      (since ++ [.received other (.frame frame)]) outbox := by
  have nothingAccepted : accepted channel (since ++ [.received other (.frame frame)]) =
      accepted channel since := accepted_concat_of_none rfl
  by_cases same : other = number
  · subst same
    have isHeld := agrees.opened
    rw [held, Option.some.injEq] at isHeld
    subst isHeld
    have moved : yielded other (since ++ [.received other (.frame frame)]) ++ rest =
        yielded other since ++ frame :: rest := by
      rw [yielded_concat]
      simp [Event.yielded?]
    refine ⟨⟨rest, attached⟩, ?_, agrees.owned.goesOn rfl rfl, ?_, ?_, ?_⟩
    · exact List.getElem?_set_self (List.getElem?_eq_some_iff.mp held).1
    · simpa using agrees.attached
    · rw [moved, nothingAccepted]
      exact agrees.order
    · rw [moved, nothingAccepted]
      exact agrees.complete
  · refine ⟨outbox, agrees.elsewhere ?_ (agrees.owned.goesOn rfl rfl) nofun (if_neg same)
      nothingAccepted⟩
    exact (List.getElem?_set_ne same).trans agrees.opened

theorem Agrees.detached (agrees : directory.Agrees channel number since outbox) (other : Nat) :
    ∃ outbox, (directory.detach other).Agrees channel number (since ++ [.detached other])
      outbox := by
  have nothingAccepted : accepted channel (since ++ [.detached other]) = accepted channel since :=
    accepted_concat_of_none rfl
  by_cases same : other = number
  · subst same
    have bound := (List.getElem?_eq_some_iff.mp agrees.opened).1
    refine ⟨⟨[], false⟩, List.getElem?_set_self bound, agrees.owned.goesOn rfl rfl, ?_, ?_, nofun⟩
    · simp
    · rw [nothingAccepted, yielded_concat, List.append_nil]
      exact List.IsPrefix.trans (by simp [Event.yielded?]) agrees.order
  · have kept : Event.detached other ≠ .detached number := by
      rintro ⟨⟩
      exact same rfl
    refine ⟨outbox, agrees.elsewhere ?_ (agrees.owned.goesOn rfl rfl) kept rfl nothingAccepted⟩
    exact (List.getElem?_set_ne same).trans agrees.opened

/-- Whatever is done, a queue goes on agreeing with what happens. -/
theorem Performs.agrees (performs : Performs directory (event, after))
    (agrees : directory.Agrees channel number since outbox) :
    ∃ outbox, after.Agrees channel number (since ++ [event]) outbox := by
  cases performs with
  | registered other =>
      have bound := (List.getElem?_eq_some_iff.mp agrees.opened).1
      refine ⟨outbox, agrees.elsewhere ?_ (agrees.owned.registered bound other) nofun rfl
        (accepted_concat_of_none rfl)⟩
      exact (List.getElem?_append_left bound).trans agrees.opened
  | unregistered other found =>
      exact ⟨outbox, agrees.elsewhere agrees.opened (agrees.owned.unregistered other found) nofun
        rfl (accepted_concat_of_none rfl)⟩
  | accepted leads _ frame => exact agrees.dispatched leads frame
  | refused =>
      exact ⟨outbox, agrees.elsewhere agrees.opened (agrees.owned.goesOn rfl rfl) nofun rfl
        (accepted_concat_of_none rfl)⟩
  | taken held => exact agrees.taken held
  | nothing _ none =>
      rename_i retrieval other
      have nothingTaken : (Event.received other retrieval).yielded? number = Option.none := by
        cases retrieval with
        | frame frame => exact absurd rfl (none frame)
        | empty | closed => rfl
      exact ⟨outbox, agrees.elsewhere agrees.opened (agrees.owned.goesOn rfl rfl) nofun
        nothingTaken (accepted_concat_of_none rfl)⟩
  | detached other => exact agrees.detached other

/-- A channel that leads to a queue afterwards was just registered, or led there before. -/
theorem Performs.owner (performs : Performs directory (event, after))
    (registered : after.owners.find? channel = some number) :
    event = .registered channel number ∨
      directory.owners.find? channel = some number ∧ event.ends channel = false := by
  cases performs with
  | registered other =>
      rcases Assoc.find?_insert_cases registered with ⟨rfl, rfl⟩ | ⟨differ, before⟩
      · exact Or.inl rfl
      · exact Or.inr ⟨before, decide_eq_false differ.symm⟩
  | unregistered other found =>
      rcases Assoc.find?_of_find?_erase registered with ⟨differ, before⟩
      exact Or.inr ⟨before, decide_eq_false differ.symm⟩
  | accepted | refused | taken | nothing | detached => exact Or.inr ⟨registered, rfl⟩

end Step

/-! ## Records -/

/-- What is kept about a directory with a limit for its queues, and what happened to it. -/
structure Record.Sound (limit : Nat) (record : Record) : Prop where
  depth : record.directory.depth = limit
  bounded : record.directory.Bounded
  /-- Every queue agrees with what happened since it was opened. -/
  agrees : ∀ before channel number since,
    record.events = before ++ .registered channel number :: since →
      ∃ outbox, record.directory.Agrees channel number since outbox
  /-- A channel leads to the queue of a registration that has not ended. -/
  latest : ∀ channel number, record.directory.owners.find? channel = some number →
    ∃ before since, record.events = before ++ .registered channel number :: since ∧
      Standing channel since

namespace Record

variable {limit : Nat} {record : Record}

theorem Sound.start (depth : Nat) : Sound (max 1 depth) ⟨ofDepth depth, []⟩ where
  depth := rfl
  bounded _ _ opened := by cases opened
  agrees before _ _ _ split := by cases before <;> cases split
  latest _ _ found := by cases found

theorem Sound.fresh (sound : Sound limit record) (channel : String) :
    record.directory.owners.find? channel ≠ some record.directory.outboxes.length := by
  intro registered
  rcases sound.latest channel _ registered with ⟨before, since, split, _⟩
  rcases sound.agrees before channel _ since split with ⟨outbox, agrees⟩
  have bound := (List.getElem?_eq_some_iff.mp agrees.opened).1
  exact Nat.lt_irrefl _ bound

theorem Sound.step (sound : Sound limit record) {event : Event} {after : Directory}
    (performs : Performs record.directory (event, after)) :
    Sound limit ⟨after, record.events ++ [event]⟩ := by
  refine ⟨performs.depth.trans sound.depth, performs.bounded sound.bounded, ?_, ?_⟩
  · intro before channel number since split
    rcases List.eq_nil_or_concat' since with rfl | ⟨since, last, rfl⟩
    · -- the registration is what has just happened
      rcases List.append_inj' split rfl with ⟨_, isLast⟩
      cases List.singleton_inj.mp isLast
      cases performs
      exact ⟨{}, Agrees.register channel sound.fresh⟩
    · rw [← List.cons_append, ← List.append_assoc] at split
      rcases List.append_inj' split rfl with ⟨earlier, isLast⟩
      rcases sound.agrees before channel number since earlier with ⟨outbox, agrees⟩
      rw [← List.singleton_inj.mp isLast]
      exact performs.agrees agrees
  · intro channel number registered
    rcases performs.owner registered with rfl | ⟨old, goesOn⟩
    · exact ⟨record.events, [], rfl, standing_nil channel⟩
    · rcases sound.latest channel number old with ⟨before, since, split, standing⟩
      refine ⟨before, since ++ [event], ?_, standing_concat.mpr ⟨standing, goesOn⟩⟩
      change record.events ++ [event] = _
      rw [split, List.append_assoc, List.cons_append]

theorem Sound.run (sound : Sound limit record) (calls : List Call) :
    Sound limit (calls.foldl note record) := by
  induction calls generalizing record with
  | nil => exact sound
  | cons call rest ih => exact ih (sound.step (record.directory.performs call))

/-- A channel leads to a queue from which somebody takes if its latest registration opened the queue
and has not ended, and the queue was not given up. -/
theorem Sound.leads_iff (sound : Sound limit record) {channel : String} {number : Nat} :
    (∃ outbox, record.directory.Leads channel number outbox) ↔
      ∃ before since, record.events = before ++ .registered channel number :: since ∧
        Standing channel since ∧ .detached number ∉ since := by
  constructor
  · rintro ⟨outbox, leads⟩
    rcases sound.latest channel number leads.registered with ⟨before, since, split, standing⟩
    rcases sound.agrees before channel number since split with ⟨held, agrees⟩
    have same := agrees.opened
    rw [leads.opened, Option.some.injEq] at same
    subst same
    exact ⟨before, since, split, standing, agrees.attached.mp leads.attached⟩
  · rintro ⟨before, since, split, standing, kept⟩
    rcases sound.agrees before channel number since split with ⟨outbox, agrees⟩
    exact ⟨outbox, agrees.owned.standing.mpr standing, agrees.opened, agrees.attached.mpr kept⟩

end Record

/-! ## Frames -/

/-- How a directory deals with a frame for a channel: what the frame comes to, and what changes. -/
structure Deals (directory : Directory) (limit : Nat) (channel : String) (frame : Frame) :
    Prop where
  accepted_iff : (directory.dispatch channel frame).1 = .ok () ↔
    ∃ number outbox, directory.Leads channel number outbox ∧ outbox.frames.length < limit
  full_iff : (directory.dispatch channel frame).1 = .error (.sendQueueFull channel) ↔
    ∃ number outbox, directory.Leads channel number outbox ∧ limit ≤ outbox.frames.length
  gone_iff : (directory.dispatch channel frame).1 = .error (.connectionGone channel) ↔
    ∀ number outbox, ¬directory.Leads channel number outbox
  added : ∀ number outbox, directory.Leads channel number outbox →
    outbox.frames.length < limit →
      (directory.dispatch channel frame).2 = directory.enqueue number [frame]
  refused : (directory.dispatch channel frame).1 ≠ .ok () →
    (directory.dispatch channel frame).2 = directory

theorem deals (directory : Directory) (channel : String) (frame : Frame) :
    directory.Deals directory.depth channel frame := by
  rcases directory.astray_or_leads channel with astray | ⟨number, outbox, leads⟩
  · have nowhere : ∀ P : Nat → Outbox → Prop,
        ¬∃ number outbox, directory.Leads channel number outbox ∧ P number outbox := by
      rintro P ⟨number, outbox, leads, _⟩
      exact astray number outbox leads
    have gone := dispatch_of_astray astray frame
    constructor <;> rw [gone]
    · exact iff_of_false nofun (nowhere _)
    · exact iff_of_false nofun (nowhere _)
    · exact iff_of_true rfl astray
    · exact fun number outbox leads => absurd leads (astray number outbox)
    · exact fun _ => rfl
  · have somewhere : ¬∀ number outbox, ¬directory.Leads channel number outbox :=
      fun astray => astray number outbox leads
    by_cases room : outbox.frames.length < directory.depth
    · have accepted := dispatch_of_room leads room frame
      constructor <;> rw [accepted]
      · exact iff_of_true rfl ⟨number, outbox, leads, room⟩
      · refine iff_of_false nofun ?_
        rintro ⟨other, held, otherLeads, full⟩
        rw [(leads.unique otherLeads).2] at full
        exact Nat.not_lt.mpr full room
      · exact iff_of_false nofun somewhere
      · intro other held otherLeads _
        rw [(leads.unique otherLeads).1]
      · exact fun refused => absurd rfl refused
    · have full := dispatch_of_full leads (Nat.not_lt.mp room) frame
      have noRoom : ∀ other held, directory.Leads channel other held →
          ¬held.frames.length < directory.depth := by
        intro other held otherLeads
        rw [(leads.unique otherLeads).2]
        exact room
      constructor <;> rw [full]
      · refine iff_of_false nofun ?_
        rintro ⟨other, held, otherLeads, more⟩
        exact noRoom other held otherLeads more
      · exact iff_of_true rfl ⟨number, outbox, leads, Nat.not_lt.mp room⟩
      · exact iff_of_false nofun somewhere
      · exact fun other held otherLeads more => absurd more (noRoom other held otherLeads)
      · exact fun _ => rfl

/-- A queue to which no channel leads is left alone by every frame. -/
theorem dispatch_of_unowned (unowned : ∀ name, directory.owners.find? name ≠ some number)
    (channel : String) (frame : Frame) :
    (directory.dispatch channel frame).2.outboxes[number]? = directory.outboxes[number]? := by
  have performs := directory.performs_dispatch channel frame
  rw [perform] at performs
  generalize directory.dispatch channel frame = outcome at performs ⊢
  rcases outcome with ⟨result, after⟩
  cases performs with
  | refused => rfl
  | accepted leads =>
      apply getElem?_enqueue_of_ne
      rintro rfl
      exact unowned channel leads.registered

/-! ## What is taken next -/

theorem receive_of_frames {frame : Frame} {rest : List Frame} {attached : Bool}
    (opened : directory.outboxes[number]? = some ⟨frame :: rest, attached⟩) :
    directory.receive number =
      (.frame frame,
        { directory with outboxes := directory.outboxes.set number ⟨rest, attached⟩ }) := by
  rw [receive, opened]

theorem receive_eq_frame_iff (opened : directory.outboxes[number]? = some outbox) {frame : Frame} :
    (directory.receive number).1 = .frame frame ↔ outbox.frames.head? = some frame := by
  rcases outbox with ⟨_ | ⟨first, rest⟩, attached⟩
  · have nothing : (directory.receive number).1 =
        if directory.owned number then .empty else .closed := by
      rw [receive, opened]
    rw [nothing, List.head?_nil]
    split
    · simp
    · simp
  · rw [receive_of_frames opened, List.head?_cons, Retrieval.frame.injEq, Option.some.injEq]

/-- From a queue that was not given up the first frame is taken that was accepted and not yet
taken. -/
theorem Agrees.takes_next {since : List Event}
    (agrees : directory.Agrees channel number since outbox) (kept : .detached number ∉ since)
    (frame : Frame) :
    (directory.receive number).1 = .frame frame ↔
      (accepted channel since)[(yielded number since).length]? = some frame := by
  rw [receive_eq_frame_iff agrees.opened, ← agrees.complete (agrees.attached.mpr kept),
    List.getElem?_append_right (Nat.le_refl _), Nat.sub_self, List.head?_eq_getElem?]

/-! ## Main result -/

/-- Queues are first in, first out, and bounded. A frame is accepted if its channel leads to a queue
with room from which somebody still takes, which is then the queue of the latest registration; else
it is refused and nothing changes. What is taken from a queue is what was accepted for its channel
while its registration lasted, in order, up to what is left in it or was given up with it; and once
the registration has ended no frame comes to the queue any more. Where there are frames the first of
them is taken, which is the next one that was accepted unless the queue was given up. -/
theorem queues_are_bounded_fifos (depth : Nat) (calls : List Call) :
    let record := Record.ofCalls depth calls
    (∀ channel frame, record.directory.Deals (max 1 depth) channel frame) ∧
    (∀ channel number, (∃ outbox, record.directory.Leads channel number outbox) ↔
      ∃ before since, record.events = before ++ .registered channel number :: since ∧
        Standing channel since ∧ .detached number ∉ since) ∧
    (∀ outbox ∈ record.directory.outboxes, outbox.frames.length ≤ max 1 depth) ∧
    (∀ number frame rest attached,
      record.directory.outboxes[number]? = some ⟨frame :: rest, attached⟩ →
        record.directory.receive number =
          (.frame frame,
            { record.directory with
              outboxes := record.directory.outboxes.set number ⟨rest, attached⟩ })) ∧
    ∀ before channel number since,
      record.events = before ++ .registered channel number :: since →
        (∃ outbox, record.directory.Agrees channel number since outbox) ∧
        (.detached number ∉ since → ∀ frame,
          (record.directory.receive number).1 = .frame frame ↔
            (accepted channel since)[(yielded number since).length]? = some frame) ∧
        (¬Standing channel since → ∀ other frame,
          (record.directory.dispatch other frame).2.outboxes[number]? =
            record.directory.outboxes[number]?) := by
  intro record
  have sound : Record.Sound (max 1 depth) record := (Record.Sound.start depth).run calls
  refine ⟨?_, fun _ _ => sound.leads_iff, ?_, fun _ _ _ _ => receive_of_frames, ?_⟩
  · rw [← sound.depth]
    exact record.directory.deals
  · rw [← sound.depth]
    intro outbox mem
    rcases List.getElem?_of_mem mem with ⟨number, opened⟩
    exact sound.bounded number outbox opened
  · intro before channel number since split
    rcases sound.agrees before channel number since split with ⟨outbox, agrees⟩
    refine ⟨⟨outbox, agrees⟩, agrees.takes_next, ?_⟩
    intro ended
    apply dispatch_of_unowned
    intro name registered
    cases agrees.owned.alone name registered
    exact ended (agrees.owned.standing.mp registered)

end Courier.Socket.Directory
