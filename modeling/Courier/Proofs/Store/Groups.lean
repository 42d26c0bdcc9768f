import Courier.Proofs.Program.SendGroup

/-!
# Groups and their members

What is done with the groups of a store over time: channels join and leave, groups are listed,
messages are sent to groups, and now and then everything is dropped. In between messages are sent to
single channels and received, which fills and empties the queues of the members.

A store keeps for each member when its time will be over. It may go on keeping a member beyond that
moment, and whether it does depends on who has listed the group. What is seen of a group does not:
its members are the channels whose latest change was that they joined, if this was not too long ago.
-/

namespace Courier

/-- Something that is done at some moment, or a while that goes by. -/
inductive Deed where
  | wait (duration : Duration)
  | join (group channel : String)
  | leave (group channel : String)
  | list (group : String)
  | sendGroup (group : String) (message : Message) (delays : List Duration)
  | flush
  | send (channel : String) (message : Message)
  | receive (channels : List String) (block : Bool)
  | resume (waiting : Waiting)

namespace Deed

/-- What a deed means for a channel in a group: it is a member from this moment on, or is none. -/
def change? (group channel : String) (now : Instant) : Deed → Option (Option Instant)
  | .join other member => if other = group ∧ member = channel then some (some now) else none
  | .leave other member => if other = group ∧ member = channel then some none else none
  | .flush => some none
  | _ => none

end Deed

/-- Since when a channel has been a member of a group: since its latest change, if it joined then. -/
def memberSince? (group channel : String) (history : List (Instant × Deed)) : Option Instant :=
  (history.filterMap fun entry => entry.2.change? group channel entry.1).getLast?.join

/-- A site at some moment, and what was done there so far. -/
structure Gathering where
  site : Site
  now : Instant
  history : List (Instant × Deed) := []

namespace Gathering

/-- A site at some moment, with nothing in its store. -/
def start (site : Site) (settings : StoreSettings) (now : Instant) : Gathering where
  site := { site with backend := { site.backend with store := { settings } } }
  now := now

def store (gathering : Gathering) : Store := gathering.site.backend.store

def withBackend (gathering : Gathering) (backend : Backend) : Gathering :=
  { gathering with site := { gathering.site with backend } }

def withStore (gathering : Gathering) (store : Store) : Gathering :=
  gathering.withBackend { gathering.site.backend with store }

/-- What a deed does to a gathering, apart from its place in the history. -/
def effect (gathering : Gathering) : Deed → Gathering
  | .wait duration => { gathering with now := gathering.now + duration }
  | .join group channel =>
      gathering.withStore (gathering.store.join gathering.now group channel)
  | .leave group channel => gathering.withStore (gathering.store.leave group channel)
  | .list group => gathering.withStore (gathering.store.members gathering.now group).2
  | .sendGroup group message delays =>
      let played := gathering.site.play gathering.now delays (Program.sendGroup group message)
      { gathering with site := played.site, now := played.now }
  | .flush => gathering.withStore gathering.store.flush
  | .send channel message =>
      gathering.withBackend (gathering.site.backend.send gathering.now channel message).2
  | .receive channels block =>
      gathering.withBackend (gathering.site.backend.receive gathering.now channels block).2
  | .resume waiting =>
      gathering.withBackend (gathering.site.backend.resume gathering.now waiting).2

def step (gathering : Gathering) (deed : Deed) : Gathering :=
  { gathering.effect deed with history := gathering.history ++ [(gathering.now, deed)] }

def run (gathering : Gathering) (deeds : List Deed) : Gathering := deeds.foldl step gathering

end Gathering

theorem memberSince?_concat (group channel : String) (history : List (Instant × Deed))
    (now : Instant) (deed : Deed) :
    memberSince? group channel (history ++ [(now, deed)]) =
      (deed.change? group channel now).getD (memberSince? group channel history) := by
  cases change : deed.change? group channel now <;> simp [memberSince?, change]

/-! ## What a store keeps of a member -/

/-- What is found under a channel in a group tells since when it has been a member: it is there with
the moment at which this ends, or it is not there and this has ended. -/
inductive Tells (expiry : Duration) (now : Instant) : Option Instant → Option Instant → Prop where
  | nobody : Tells expiry now none none
  | kept (joined : Instant) : Tells expiry now (some (joined + expiry)) (some joined)
  | dropped {joined : Instant} (past : joined + expiry ≤ now) : Tells expiry now none (some joined)

namespace Tells

variable {expiry : Duration} {now later : Instant} {found since : Option Instant}

theorem fresh (expiry : Duration) (now : Instant) (since : Option Instant) :
    Tells expiry now (since.map (· + expiry)) since := by
  cases since with
  | none => exact .nobody
  | some joined => exact .kept joined

theorem wait (tells : Tells expiry now found since) (le : now ≤ later) :
    Tells expiry later found since := by
  cases tells with
  | nobody => exact .nobody
  | kept joined => exact .kept joined
  | dropped past => exact .dropped (Nat.le_trans past le)

/-- A member may be dropped when its time is over. -/
theorem drop {endsAt : Instant} (tells : Tells expiry now (some endsAt) since)
    (past : endsAt ≤ later) : Tells expiry later none since := by
  cases tells with
  | kept joined => exact .dropped past

/-- Whether a channel counts as a member depends only on when it joined. -/
theorem counts_iff (tells : Tells expiry now found since) (le : now ≤ later) :
    (∃ endsAt, found = some endsAt ∧ later < endsAt) ↔
      ∃ joined, since = some joined ∧ later < joined + expiry := by
  cases tells with
  | nobody => simp
  | kept joined => simp
  | dropped past =>
      constructor
      · rintro ⟨endsAt, found, -⟩
        cases found
      · rintro ⟨joined, isJoined, early⟩
        cases isJoined
        exact absurd (Nat.lt_of_le_of_lt (Nat.le_trans past le) early) (Nat.lt_irrefl _)

end Tells

namespace Gathering

/-- A store keeps of all members what is known of them. -/
structure Sound (settings : StoreSettings) (gathering : Gathering) : Prop where
  same : gathering.store.settings = settings
  tells : ∀ group channel, Tells settings.groupExpiry gathering.now
    ((gathering.store.group group).find? channel) (memberSince? group channel gathering.history)

namespace Sound

variable {settings : StoreSettings} {gathering : Gathering} {deed : Deed}

theorem of_start (site : Site) (settings : StoreSettings) (now : Instant) :
    Sound settings (start site settings now) :=
  ⟨rfl, fun _ _ => .nobody⟩

/-- Deeds that change no membership: members are dropped at most when their time is past. -/
theorem of_course (sound : Sound settings gathering) {accepted : String → List Message}
    (course : gathering.store.Course gathering.now (gathering.effect deed).now accepted
      (gathering.effect deed).store)
    (unchanged : ∀ group channel, deed.change? group channel gathering.now = none) :
    Sound settings (gathering.step deed) := by
  refine ⟨course.settings.trans sound.same, ?_⟩
  intro group channel
  have before := sound.tells group channel
  change Tells _ (gathering.effect deed).now
    (((gathering.effect deed).store.group group).find? channel)
    (memberSince? group channel (gathering.history ++ [(gathering.now, deed)]))
  rw [memberSince?_concat, unchanged group channel, Option.getD_none]
  rcases course.groups group channel with same | ⟨gone, endsAt, found, past⟩
  · rw [same]
    exact before.wait course.forward
  · rw [gone]
    rw [found] at before
    exact before.drop past

/-- Deeds that change memberships, which takes no time. -/
theorem of_changes (sound : Sound settings gathering)
    (same : (gathering.effect deed).store.settings = gathering.store.settings)
    (atOnce : (gathering.effect deed).now = gathering.now)
    (changed : ∀ group channel since, deed.change? group channel gathering.now = some since →
      ((gathering.effect deed).store.group group).find? channel =
        since.map (· + settings.groupExpiry))
    (unchanged : ∀ group channel, deed.change? group channel gathering.now = none →
      ((gathering.effect deed).store.group group).find? channel =
        (gathering.store.group group).find? channel) :
    Sound settings (gathering.step deed) := by
  refine ⟨same.trans sound.same, ?_⟩
  intro group channel
  change Tells _ (gathering.effect deed).now
    (((gathering.effect deed).store.group group).find? channel)
    (memberSince? group channel (gathering.history ++ [(gathering.now, deed)]))
  rw [memberSince?_concat, atOnce]
  cases change : deed.change? group channel gathering.now with
  | none =>
      rw [unchanged group channel change]
      exact sound.tells group channel
  | some since =>
      rw [changed group channel since change]
      exact .fresh _ _ since

theorem join (sound : Sound settings gathering) (group channel : String) :
    Sound settings (gathering.step (.join group channel)) := by
  refine sound.of_changes rfl rfl ?_ ?_
  · intro other member since change
    rw [Deed.change?] at change
    split at change
    · rename_i same
      rcases same with ⟨rfl, rfl⟩
      cases change
      rw [← sound.same]
      exact gathering.store.find?_join_self gathering.now group channel
    · cases change
  · intro other member change
    rw [Deed.change?] at change
    split at change
    · cases change
    · rename_i differ
      exact gathering.store.find?_join_of_ne gathering.now differ

theorem leave (sound : Sound settings gathering) (group channel : String) :
    Sound settings (gathering.step (.leave group channel)) := by
  refine sound.of_changes rfl rfl ?_ ?_
  · intro other member since change
    rw [Deed.change?] at change
    split at change
    · rename_i same
      rcases same with ⟨rfl, rfl⟩
      cases change
      exact gathering.store.find?_leave_self group channel
    · cases change
  · intro other member change
    rw [Deed.change?] at change
    split at change
    · cases change
    · rename_i differ
      exact gathering.store.find?_leave_of_ne differ

theorem flush (sound : Sound settings gathering) : Sound settings (gathering.step .flush) := by
  refine sound.of_changes rfl rfl ?_ (fun _ _ => nofun)
  intro group channel since change
  cases change
  rfl

/-- Deeds that leave the groups alone. -/
theorem of_groups (sound : Sound settings gathering)
    (same : (gathering.effect deed).store.settings = gathering.store.settings ∧
      ∀ group, (gathering.effect deed).store.group group = gathering.store.group group)
    (atOnce : (gathering.effect deed).now = gathering.now)
    (unchanged : ∀ group channel, deed.change? group channel gathering.now = none) :
    Sound settings (gathering.step deed) := by
  refine sound.of_changes same.1 atOnce ?_ ?_
  · intro group channel since change
    rw [unchanged] at change
    cases change
  · intro group channel _
    rw [same.2]

theorem receive (sound : Sound settings gathering) (channels : List String) (block : Bool) :
    Sound settings (gathering.step (.receive channels block)) := by
  refine sound.of_groups ?_ rfl (fun _ _ => rfl)
  rw [effect]
  rcases gathering.site.backend.receive_reaches_or_fails gathering.now channels block with
    reached | ⟨error, failed⟩
  · rw [reached]
    exact ⟨gathering.store.settings_receive gathering.now channels block,
      fun group => gathering.store.group_receive gathering.now group channels block⟩
  · rw [failed]
    exact ⟨rfl, fun _ => rfl⟩

theorem step (sound : Sound settings gathering) (deed : Deed) :
    Sound settings (gathering.step deed) := by
  cases deed with
  | wait duration =>
      exact sound.of_course (.still (Nat.le_add_right _ duration) rfl (fun _ => rfl) fun _ => rfl)
        fun _ _ => rfl
  | join group channel => exact sound.join group channel
  | leave group channel => exact sound.leave group channel
  | list group =>
      exact sound.of_course (gathering.store.course_members gathering.now group) fun _ _ => rfl
  | sendGroup group message delays =>
      exact sound.of_course
        (gathering.site.course_played gathering.now delays (Program.sendGroup group message))
        fun _ _ => rfl
  | flush => exact sound.flush
  | send channel message =>
      exact sound.of_course (gathering.site.course_send gathering.now channel message)
        fun _ _ => rfl
  | receive channels block => exact sound.receive channels block
  | resume waiting =>
      exact sound.of_groups ⟨gathering.store.settings_resume gathering.now waiting,
        fun group => gathering.store.group_resume gathering.now group waiting⟩ rfl fun _ _ => rfl

theorem run (sound : Sound settings gathering) (deeds : List Deed) :
    Sound settings (gathering.run deeds) := by
  induction deeds generalizing gathering with
  | nil => exact sound
  | cons deed rest ih => exact ih (sound.step deed)

/-- The members of a group are the channels that joined it last thing, and not too long ago. -/
theorem mem_members_iff (sound : Sound settings gathering) {later : Instant}
    (le : gathering.now ≤ later) (group channel : String) :
    channel ∈ (gathering.store.members later group).1 ↔
      ∃ joined, memberSince? group channel gathering.history = some joined ∧
        later < joined + settings.groupExpiry :=
  (gathering.store.mem_members later).trans ((sound.tells group channel).counts_iff le)

end Sound

end Gathering

/-! ## Main result -/

/-- After whatever was done with groups, the members of a group are listed in order and each of them
once, and they are the channels whose latest change was to join, if their time is not over. A message
for a group is sent to each of them, at once or over a while; it comes to the queues of those to which
sending succeeds, each of which gets it once, and to no other queues. -/
theorem groups_fan_out_to_members (site : Site) (settings : StoreSettings) (begun : Instant)
    (deeds : List Deed) :
    let gathering := (Gathering.start site settings begun).run deeds
    gathering.store.settings = settings ∧
    ∀ now, gathering.now ≤ now → ∀ group,
      (gathering.store.members now group).1.Pairwise (· < ·) ∧
      (∀ channel, channel ∈ (gathering.store.members now group).1 ↔
        ∃ joined, memberSince? group channel gathering.history = some joined ∧
          now < joined + settings.groupExpiry) ∧
      ∀ message,
        (∀ delays, FansOut gathering.site now (gathering.store.members now group).1 message
          (gathering.site.play now delays (Program.sendGroup group message))) ∧
        let played := gathering.site.play now [] (Program.sendGroup group message)
        gathering.site.run now (Program.sendGroup group message) =
          (.finished played.value, played.site) ∧ played.now = now := by
  intro gathering
  have sound : gathering.Sound settings := (Gathering.Sound.of_start site settings begun).run deeds
  refine ⟨sound.same, ?_⟩
  intro now le group
  refine ⟨gathering.store.sorted_members now group, sound.mem_members_iff le group, ?_⟩
  intro message
  exact ⟨fansOut_sendGroup gathering.site now group message,
    gathering.site.run_of_steady now (Program.steady_sendGroup group message)⟩

end Courier
