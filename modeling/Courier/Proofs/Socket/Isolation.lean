import Courier.Proofs.Socket.Multiplex
import Mathlib.Data.List.Flatten

/-!
# Sockets do not get in each other's way

The directory leads from a channel to a queue that was opened under its name, if anywhere. So what
is put into a queue are frames of messages that its own channel accepted, in the order in which the
channel accepted them, none of them twice; and what a socket takes from its queue is what was put
there, in order. A queue to which no channel leads any more stays as it is, whatever happens.

Most moves have nothing to do with frames. What the others do is said once, by `Effect`, and both
invariants are proved of it.
-/

namespace Courier.Socket.Multiplex

/-! ## Frames on their way -/

/-- The frames of all messages that were handed over on a channel. -/
def framesHanded (multiplex : Multiplex) (name : String) : List Frame :=
  (under name multiplex.handed).flatMap framesFor

/-- The frames that are still to be delivered on a channel. -/
def pendingFor (multiplex : Multiplex) (name : String) : List Frame :=
  multiplex.pending.elim [] fun pending => if pending.1 = name then pending.2 else []

/-! ## What a move does to the queues -/

/-- Nothing comes to a queue or from it, and every channel leads where it led. The rest of a
delivery may be given up. -/
structure Still (before after : Multiplex) : Prop where
  owners : after.directory.owners = before.directory.owners
  outboxes : after.directory.outboxes = before.directory.outboxes
  names : after.names = before.names
  handed : after.handed = before.handed
  queued : after.queued = before.queued
  retrieved : after.retrieved = before.retrieved
  pending : ∀ name, (after.pendingFor name).Sublist (before.pendingFor name)

/-- Frames stay where they are while time passes, messages are sent, registrations are announced,
and the reader does something else. -/
theorem still_elsewhere (multiplex : Multiplex) (now : Instant) (site : Site) (reader : Reader)
    (accepted : List (String × Queued)) (registrations : Nat) :
    Still multiplex
      { multiplex with
        now, reader, accepted
        hub := { site, directory := { multiplex.directory with registrations } } } :=
  ⟨rfl, rfl, rfl, rfl, rfl, rfl, fun _ => List.Sublist.refl _⟩

/-- The state with something else in a queue. -/
def withOutbox (multiplex : Multiplex) (number : Nat) (outbox : Outbox) : Multiplex :=
  multiplex.withDirectory
    { multiplex.directory with outboxes := multiplex.directory.outboxes.set number outbox }

/-- What a move may do to the queues and to the way there. -/
inductive Effect (before : Multiplex) : Multiplex → Prop
  | still {after : Multiplex} (still : Still before after) : Effect before after
  | enter (name : String) : Effect before (before.move (.enter name))
  | unregister (name : String) : Effect before (before.move (.unregister name))
  | detach (number : Nat) : Effect before (before.move (.detach number))
  | retrieve {number : Nat} {frame : Frame} {rest : List Frame} {attached : Bool}
      (there : before.directory.outboxes[number]? = some ⟨frame :: rest, attached⟩) :
      Effect before
        { before.withOutbox number ⟨rest, attached⟩ with
          retrieved := before.retrieved ++ [(number, frame)] }
  | hand (free : before.pending = none) {hub : Hub} {reader : Reader}
      (directory : hub.directory = before.directory) (brought : Option (String × Message)) :
      Effect before (({ before with hub, reader } : Multiplex).hand brought)
  | enqueue {channel : String} {frame : Frame} {rest : List Frame}
      (pending : before.pending = some (channel, frame :: rest)) {number : Nat} {outbox : Outbox}
      (owned : before.directory.owners.find? channel = some number)
      (there : before.directory.outboxes[number]? = some outbox)
      (attached : outbox.attached = true) :
      Effect before
        { before.withOutbox number { outbox with frames := outbox.frames ++ [frame] } with
          pending := some (channel, rest)
          queued := before.queued ++ [(number, frame)] }

theorem effect_dispatch (multiplex : Multiplex) : Effect multiplex multiplex.dispatchNext := by
  rw [dispatchNext]
  split
  case h_1 => exact .still (still_elsewhere multiplex ..)
  case h_2 => exact .still ⟨rfl, rfl, rfl, rfl, rfl, rfl, fun _ => List.nil_sublist _⟩
  case h_3 channel frame rest pending =>
      rcases multiplex.directory.dispatch_spec channel frame with
        ⟨number, outbox, owned, there, attached, dispatched⟩ | ⟨error, refused⟩
      · rw [dispatched, owned]
        exact .enqueue pending owned there attached
      · rw [refused]
        exact .still ⟨rfl, rfl, rfl, rfl, rfl, rfl, fun _ => List.nil_sublist _⟩

theorem effect_move (multiplex : Multiplex) (move : Move) :
    Effect multiplex (multiplex.move move) := by
  have elsewhere := still_elsewhere multiplex
  cases move with
  | wait duration | announce | tell | shuffle order => exact .still (elsewhere ..)
  | enter name => exact .enter name
  | unregister name => exact .unregister name
  | detach number => exact .detach number
  | push channel message =>
      rw [move]
      split
      · exact .still (elsewhere ..)
      · exact .still (elsewhere ..)
  | stop | restart =>
      rw [move]
      split
      · exact .still (elsewhere ..)
      · exact .still (elsewhere ..)
  | retrieve number =>
      rw [move]
      rcases multiplex.directory.receive_spec number with
        ⟨frame, rest, attached, there, received⟩ | ⟨retrieval, noFrame, received⟩
      · rw [received]
        exact .retrieve there
      · rw [received]
        cases retrieval with
        | frame frame => exact absurd rfl (noFrame frame)
        | empty | closed => exact .still (elsewhere ..)
  | proceed =>
      have looks := Reader.looks_look multiplex.reader multiplex.hub multiplex.now
      rw [move]
      split
      case isFalse => exact .still (elsewhere ..)
      case isTrue idle => exact .hand (Option.isNone_iff_eq_none.mp idle) looks.directory _
  | dispatch => exact effect_dispatch multiplex

/-! ## Where frames go -/

/-- A queue holds what was put into it and not taken, and nothing else unless it was given up. -/
structure Holds (outbox : Outbox) (retrieved queued : List Frame) : Prop where
  part : retrieved ++ outbox.frames <+: queued
  all : outbox.attached = true → retrieved ++ outbox.frames = queued

/-- What holds of the directory and the queues after any moves. -/
structure Routed (multiplex : Multiplex) : Prop where
  sizes : multiplex.names.length = multiplex.directory.outboxes.length
  owners : ∀ name number, multiplex.directory.owners.find? name = some number →
    multiplex.names[number]? = some name
  known : ∀ entry ∈ multiplex.queued ++ multiplex.retrieved, entry.1 < multiplex.names.length
  pending : ∀ name, (multiplex.pendingFor name).Sublist (multiplex.framesHanded name)
  ordered : ∀ number name, multiplex.names[number]? = some name →
    (under number multiplex.queued ++ multiplex.pendingFor name).Sublist
      (multiplex.framesHanded name)
  holds : ∀ number outbox, multiplex.directory.outboxes[number]? = some outbox →
    Holds outbox (under number multiplex.retrieved) (under number multiplex.queued)

variable {multiplex : Multiplex}

namespace Routed

theorem under_new (routed : multiplex.Routed) :
    under multiplex.names.length multiplex.queued = [] ∧
      under multiplex.names.length multiplex.retrieved = [] :=
  ⟨under_eq_nil fun entry mem =>
      Nat.ne_of_lt (routed.known entry (List.mem_append_left _ mem)),
    under_eq_nil fun entry mem =>
      Nat.ne_of_lt (routed.known entry (List.mem_append_right _ mem))⟩

theorem enter (routed : multiplex.Routed) (name : String) :
    (multiplex.move (.enter name)).Routed := by
  have new := routed.under_new
  refine ⟨?_, ?_, ?_, routed.pending, ?_, ?_⟩
  · change (multiplex.names ++ [name]).length = (multiplex.directory.outboxes ++ [({} : Outbox)]).length
    rw [List.length_append, List.length_append, routed.sizes]
    rfl
  · intro other number owned
    change (multiplex.names ++ [name])[number]? = some other
    rcases Assoc.find?_insert_cases owned with ⟨rfl, rfl⟩ | ⟨-, earlier⟩
    · rw [← routed.sizes, List.getElem?_append_right (Nat.le_refl _), Nat.sub_self]
      rfl
    · have old := routed.owners other number earlier
      rw [List.getElem?_append_left (List.getElem?_eq_some_iff.mp old).1, old]
  · intro entry mem
    change entry.1 < (multiplex.names ++ [name]).length
    rw [List.length_append]
    exact Nat.lt_add_right _ (routed.known entry mem)
  · intro number other named
    rcases getElem?_snoc_cases named with earlier | ⟨rfl, -⟩
    · exact routed.ordered number other earlier
    · change (under _ multiplex.queued ++ multiplex.pendingFor other).Sublist
        (multiplex.framesHanded other)
      rw [new.1]
      exact routed.pending other
  · intro number outbox there
    rcases getElem?_snoc_cases there with earlier | ⟨rfl, rfl⟩
    · exact routed.holds number outbox earlier
    · rw [← routed.sizes]
      change Holds {} (under _ multiplex.retrieved) (under _ multiplex.queued)
      rw [new.1, new.2]
      exact ⟨List.prefix_refl _, fun _ => rfl⟩

theorem unregister (routed : multiplex.Routed) (name : String) :
    (multiplex.move (.unregister name)).Routed := by
  refine ⟨routed.sizes, ?_, routed.known, routed.pending, routed.ordered, routed.holds⟩
  intro other number owned
  exact routed.owners other number (Assoc.find?_of_find?_erase owned).2

theorem setOutbox (routed : multiplex.Routed) {after : Multiplex} {number : Nat}
    {old new : Outbox} (there : multiplex.directory.outboxes[number]? = some old)
    (directory : after.directory =
      { multiplex.directory with outboxes := multiplex.directory.outboxes.set number new })
    (others : ∀ other, other ≠ number →
      under other after.retrieved = under other multiplex.retrieved ∧
        under other after.queued = under other multiplex.queued)
    (holds : Holds new (under number after.retrieved) (under number after.queued)) :
    ∀ other outbox, after.directory.outboxes[other]? = some outbox →
      Holds outbox (under other after.retrieved) (under other after.queued) := by
  intro other outbox found
  rw [directory] at found
  change (multiplex.directory.outboxes.set number new)[other]? = some outbox at found
  by_cases same : other = number
  · subst same
    rw [List.getElem?_set_self (List.getElem?_eq_some_iff.mp there).1] at found
    cases found
    exact holds
  · rw [List.getElem?_set_ne (Ne.symm same)] at found
    rw [(others other same).1, (others other same).2]
    exact routed.holds other outbox found

theorem retrieve (routed : multiplex.Routed) {number : Nat} {frame : Frame} {rest : List Frame}
    {attached : Bool}
    (there : multiplex.directory.outboxes[number]? = some ⟨frame :: rest, attached⟩) :
    ({ multiplex.withOutbox number ⟨rest, attached⟩ with
        retrieved := multiplex.retrieved ++ [(number, frame)] } : Multiplex).Routed := by
  have inside := (List.getElem?_eq_some_iff.mp there).1
  refine ⟨?_, routed.owners, ?_, routed.pending, routed.ordered, ?_⟩
  · exact routed.sizes.trans (List.length_set ..).symm
  · intro entry mem
    change entry ∈ multiplex.queued ++ (multiplex.retrieved ++ [(number, frame)]) at mem
    rw [← List.append_assoc] at mem
    rcases List.mem_append.mp mem with old | new
    · exact routed.known entry old
    · rw [List.mem_singleton.mp new]
      change number < multiplex.names.length
      rw [routed.sizes]
      exact inside
  · apply routed.setOutbox there rfl
    · intro other differ
      refine ⟨?_, rfl⟩
      change under other (multiplex.retrieved ++ [(number, frame)]) = _
      rw [under_append, under_of_ne (Ne.symm differ), List.append_nil]
    · have held := routed.holds number _ there
      have same : under number (multiplex.retrieved ++ [(number, frame)]) ++ rest =
          under number multiplex.retrieved ++ frame :: rest := by
        rw [under_append, under_self, List.append_assoc, List.singleton_append]
      refine ⟨?_, ?_⟩
      · change under number (multiplex.retrieved ++ [(number, frame)]) ++ rest <+: _
        rw [same]
        exact held.part
      · intro isAttached
        change under number (multiplex.retrieved ++ [(number, frame)]) ++ rest = _
        rw [same]
        exact held.all isAttached

theorem detach (routed : multiplex.Routed) (number : Nat) :
    (multiplex.move (.detach number)).Routed := by
  refine ⟨?_, routed.owners, routed.known, routed.pending, routed.ordered, ?_⟩
  · exact routed.sizes.trans (List.length_set ..).symm
  · intro other outbox found
    change (multiplex.directory.outboxes.set number ⟨[], false⟩)[other]? = some outbox at found
    by_cases same : number = other
    · subst same
      rw [List.getElem?_set_self'] at found
      rcases Option.map_eq_some_iff.mp found with ⟨old, there, rfl⟩
      have held := routed.holds number old there
      refine ⟨?_, nofun⟩
      change under number multiplex.retrieved ++ [] <+: under number multiplex.queued
      rw [List.append_nil]
      exact (List.prefix_append _ _).trans held.part
    · rw [List.getElem?_set_ne same] at found
      exact routed.holds other outbox found

/-! ## Deliveries -/

theorem hand (routed : multiplex.Routed) (free : multiplex.pending = none) {hub : Hub}
    {reader : Reader} (directory : hub.directory = multiplex.directory)
    (brought : Option (String × Message)) :
    (({ multiplex with hub, reader } : Multiplex).hand brought).Routed := by
  have framesHanded : ∀ name,
      (({ multiplex with hub, reader } : Multiplex).hand brought).framesHanded name =
        multiplex.framesHanded name ++
          (({ multiplex with hub, reader } : Multiplex).hand brought).pendingFor name := by
    intro name
    simp only [Multiplex.framesHanded, pendingFor, Multiplex.hand, under_append,
      List.flatMap_append]
    rcases brought with _ | ⟨channel, message⟩
    · rfl
    · rw [Option.bind_some, Option.toList_some]
      by_cases same : channel = name
      · subst same
        rw [under_self, List.flatMap_singleton, framesFor]
        cases Send.framesOf message with
        | error error => rfl
        | ok frames => exact congrArg _ (if_pos rfl).symm
      · rw [under_of_ne same]
        cases Send.framesOf message with
        | error error => rfl
        | ok frames => exact congrArg _ (if_neg same).symm
  have same : (({ multiplex with hub, reader } : Multiplex).hand brought).directory =
      multiplex.directory := directory
  refine ⟨?_, ?_, routed.known, ?_, ?_, ?_⟩
  · rw [same]
    exact routed.sizes
  · rw [same]
    exact routed.owners
  · intro name
    rw [framesHanded]
    exact List.sublist_append_right _ _
  · intro number name named
    have old := routed.ordered number name named
    have none : multiplex.pendingFor name = [] := by rw [pendingFor, free]; rfl
    rw [none, List.append_nil] at old
    rw [framesHanded]
    exact old.append (List.Sublist.refl _)
  · rw [same]
    exact routed.holds

theorem still (routed : multiplex.Routed) {after : Multiplex} (still : Still multiplex after) :
    after.Routed := by
  have framesHanded : after.framesHanded = multiplex.framesHanded := by
    funext name
    rw [Multiplex.framesHanded, still.handed]
    rfl
  refine ⟨?_, ?_, ?_, ?_, ?_, ?_⟩
  · rw [still.names, still.outboxes]
    exact routed.sizes
  · rw [still.names, still.owners]
    exact routed.owners
  · rw [still.names, still.queued, still.retrieved]
    exact routed.known
  · intro name
    rw [framesHanded]
    exact (still.pending name).trans (routed.pending name)
  · intro number name named
    rw [still.names] at named
    rw [framesHanded, still.queued]
    exact ((still.pending name).append_left _).trans (routed.ordered number name named)
  · rw [still.outboxes, still.queued, still.retrieved]
    exact routed.holds

/-- A frame goes into the queue that was opened under the name of its channel. -/
theorem enqueue (routed : multiplex.Routed) {channel : String} {frame : Frame} {rest : List Frame}
    (pending : multiplex.pending = some (channel, frame :: rest)) {number : Nat} {outbox : Outbox}
    (owned : multiplex.directory.owners.find? channel = some number)
    (there : multiplex.directory.outboxes[number]? = some outbox)
    (attached : outbox.attached = true) :
    ({ multiplex.withOutbox number { outbox with frames := outbox.frames ++ [frame] } with
        pending := some (channel, rest)
        queued := multiplex.queued ++ [(number, frame)] } : Multiplex).Routed := by
  have named := routed.owners channel number owned
  have own : multiplex.pendingFor channel = frame :: rest := by
    rw [pendingFor, pending]
    exact if_pos rfl
  refine ⟨?_, routed.owners, ?_, ?_, ?_, ?_⟩
  · exact routed.sizes.trans (List.length_set ..).symm
  · intro entry mem
    change entry ∈ multiplex.queued ++ [(number, frame)] ++ multiplex.retrieved at mem
    rw [List.append_assoc, List.mem_append, List.singleton_append, List.mem_cons] at mem
    rcases mem with old | rfl | old
    · exact routed.known entry (List.mem_append_left _ old)
    · exact (List.getElem?_eq_some_iff.mp named).1
    · exact routed.known entry (List.mem_append_right _ old)
  · intro name
    change (if channel = name then rest else []).Sublist (multiplex.framesHanded name)
    split
    case isTrue same =>
        subst same
        have whole := routed.pending channel
        rw [own] at whole
        exact (List.sublist_cons_self _ _).trans whole
    case isFalse => exact List.nil_sublist _
  · intro other name otherNamed
    change (under other (multiplex.queued ++ [(number, frame)]) ++
      if channel = name then rest else []).Sublist (multiplex.framesHanded name)
    have old := routed.ordered other name otherNamed
    by_cases same : channel = name
    · subst same
      rw [own] at old
      rw [if_pos rfl, under_append, List.append_assoc]
      apply List.Sublist.trans _ old
      apply List.Sublist.append_left
      -- an older queue of the same name gets nothing more
      by_cases isNumber : number = other
      · subst isNumber
        rw [under_self]
        exact List.Sublist.refl _
      · rw [under_of_ne isNumber]
        exact List.sublist_cons_self _ _
    · have differ : number ≠ other := by
        rintro rfl
        exact same (Option.some.inj (named.symm.trans otherNamed))
      rw [if_neg same, under_append, under_of_ne differ, List.append_nil, List.append_nil]
      exact (List.sublist_append_left _ _).trans old
  · apply routed.setOutbox there rfl
    · intro other differ
      refine ⟨rfl, ?_⟩
      change under other (multiplex.queued ++ [(number, frame)]) = _
      rw [under_append, under_of_ne (Ne.symm differ), List.append_nil]
    · have all : under number multiplex.retrieved ++ (outbox.frames ++ [frame]) =
          under number (multiplex.queued ++ [(number, frame)]) := by
        rw [under_append, under_self, ← (routed.holds number outbox there).all attached,
          List.append_assoc]
      refine ⟨⟨[], ?_⟩, fun _ => all⟩
      rw [List.append_nil]
      exact all

theorem step (routed : multiplex.Routed) {after : Multiplex} (effect : Effect multiplex after) :
    after.Routed := by
  cases effect with
  | still still => exact routed.still still
  | enter name => exact routed.enter name
  | unregister name => exact routed.unregister name
  | detach number => exact routed.detach number
  | retrieve there => exact routed.retrieve there
  | hand free directory brought => exact routed.hand free directory brought
  | enqueue pending owned there attached => exact routed.enqueue pending owned there attached

theorem run (routed : multiplex.Routed) (moves : List Move) : (multiplex.run moves).Routed := by
  induction moves generalizing multiplex with
  | nil => exact routed
  | cons move rest ih => exact ih (routed.step (multiplex.effect_move move))

end Routed

theorem routed_start (settings : SocketSettings) (storeSettings : StoreSettings) (label : String)
    (failingReceives : List Nat) (depth : Nat) (begun : Instant) :
    (start settings storeSettings label failingReceives depth begun).Routed where
  sizes := rfl
  owners := nofun
  known := nofun
  pending := fun _ => List.nil_sublist _
  ordered := nofun
  holds := nofun

/-! ## Queues that are out of reach -/

/-- A queue to which no channel leads. -/
structure Unreachable (number : Nat) (multiplex : Multiplex) : Prop where
  opened : number < multiplex.names.length
  unowned : ∀ name, multiplex.directory.owners.find? name ≠ some number

namespace Unreachable

variable {number : Nat}

theorem unregister (routed : multiplex.Routed) {name : String}
    (named : multiplex.names[number]? = some name) :
    Unreachable number (multiplex.move (.unregister name)) := by
  refine ⟨(List.getElem?_eq_some_iff.mp named).1, ?_⟩
  intro other owned
  rcases Assoc.find?_of_find?_erase owned with ⟨differ, earlier⟩
  have otherNamed := routed.owners other number earlier
  rw [named] at otherNamed
  exact differ (Option.some.inj otherNamed).symm

theorem step (unreachable : Unreachable number multiplex) (routed : multiplex.Routed)
    {after : Multiplex} (effect : Effect multiplex after) :
    Unreachable number after ∧ under number after.queued = under number multiplex.queued := by
  rcases unreachable with ⟨opened, unowned⟩
  cases effect with
  | still still =>
      refine ⟨⟨?_, ?_⟩, ?_⟩
      · rw [still.names]
        exact opened
      · rw [still.owners]
        exact unowned
      · rw [still.queued]
  | enter name =>
      refine ⟨⟨?_, ?_⟩, rfl⟩
      · change number < (multiplex.names ++ [name]).length
        rw [List.length_append]
        exact Nat.lt_add_right _ opened
      · intro other owned
        rcases Assoc.find?_insert_cases owned with ⟨-, new⟩ | ⟨-, earlier⟩
        · -- the queue that was opened just now is another one
          rw [new, ← routed.sizes] at opened
          exact Nat.lt_irrefl _ opened
        · exact unowned other earlier
  | unregister name =>
      refine ⟨⟨opened, ?_⟩, rfl⟩
      intro other owned
      exact unowned other (Assoc.find?_of_find?_erase owned).2
  | detach other | retrieve there => exact ⟨⟨opened, unowned⟩, rfl⟩
  | hand free directory brought =>
      refine ⟨⟨opened, ?_⟩, rfl⟩
      intro name owned
      exact unowned name ((congrArg (fun directory => directory.owners.find? name)
        directory).symm.trans owned)
  | @enqueue channel frame rest pending owner outbox owned there attached =>
      refine ⟨⟨opened, unowned⟩, ?_⟩
      have differ : owner ≠ number := by
        rintro rfl
        exact unowned channel owned
      change under number (multiplex.queued ++ [(owner, frame)]) = _
      rw [under_append, under_of_ne differ, List.append_nil]

theorem run (unreachable : Unreachable number multiplex) (routed : multiplex.Routed)
    (moves : List Move) :
    under number (multiplex.run moves).queued = under number multiplex.queued := by
  induction moves generalizing multiplex with
  | nil => rfl
  | cons move rest ih =>
      have effect := multiplex.effect_move move
      rcases unreachable.step routed effect with ⟨still, same⟩
      exact (ih still (routed.step effect)).trans same

end Unreachable

/-! ## What sockets get -/

theorem handed_sublist (kept : multiplex.Kept) (channel : String) :
    (under channel multiplex.handed).Sublist
      ((under channel multiplex.accepted).map Queued.message) := by
  rcases kept channel with ⟨ledger, accounted⟩
  rw [accounted.handed, accounted.accepted, List.map_append]
  exact ledger.delivered_sublist.trans (List.sublist_append_left _ _)

end Courier.Socket.Multiplex

namespace Courier.Socket

/-- However a reader and any number of sockets, senders and their moves are interleaved: what is put
into the queue of a socket are frames of the messages that its own channel accepted, in order and
none twice, and the socket takes them in this order; each message that a channel accepted waits
there, has expired or was handed over for delivery, once; and nothing is put into the queue of a
socket that has been taken out of the directory. -/
theorem sockets_are_isolated (settings : SocketSettings) (storeSettings : StoreSettings)
    (label : String) (failingReceives : List Nat) (depth : Nat) (begun : Instant)
    (moves : List Multiplex.Move) :
    let begin := Multiplex.start settings storeSettings label failingReceives depth begun
    let after := begin.run moves
    (∀ number name, after.names[number]? = some name →
      (under number after.queued).Sublist
        (((under name after.accepted).map Queued.message).flatMap framesFor)) ∧
    (∀ number outbox, after.directory.outboxes[number]? = some outbox →
      Multiplex.Holds outbox (under number after.retrieved) (under number after.queued)) ∧
    (∀ channel, ∃ ledger, Multiplex.Accounted after.now (under channel after.accepted)
      (under channel after.handed) ledger (after.store.queue channel)) ∧
    ∀ before name rest number, moves = before ++ .unregister name :: rest →
      (begin.run before).names[number]? = some name →
      under number after.queued = under number (begin.run before).queued := by
  intro begin after
  have kept : begin.Kept :=
    Multiplex.kept_start settings storeSettings label failingReceives depth begun
  have routed : begin.Routed :=
    Multiplex.routed_start settings storeSettings label failingReceives depth begun
  refine ⟨?_, (routed.run moves).holds, kept.run moves, ?_⟩
  · intro number name named
    have handed := (List.sublist_append_left _ _).trans
      ((routed.run moves).ordered number name named)
    exact handed.trans ((Multiplex.handed_sublist (kept.run moves) name).flatMap _)
  · intro before name rest number split named
    have routedBefore := routed.run before
    have unreachable := Multiplex.Unreachable.unregister routedBefore named
    have same := unreachable.run (routedBefore.unregister name) rest
    subst split
    change under number (begin.run (before ++ .unregister name :: rest)).queued = _
    rw [Multiplex.run_append]
    exact same

end Courier.Socket
