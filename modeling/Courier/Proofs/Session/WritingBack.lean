import Courier.Proofs.Lists
import Courier.Proofs.Session.Expiring

/-!
# Changes of a session are written back

A session is loaded, fields of it are stored and removed, and now and then it is saved, which may
fail. Saving asks the provider only where there is something to save: a session that nothing was
stored for and that was never saved, or one that was changed since it was saved last or loaded. What
a session remembers of this in its two marks is what one would find in the list of all that happened
to it.

With a store in which nothing expires, a session without anything to save is the one in the store,
field by field and in the same order. This holds when it is loaded and is kept by whatever is done
to it.
-/

namespace Courier

/-! ## Providers -/

/-- Where sessions are loaded from and saved to. Both may fail, and may depend on anything. -/
structure SessionProvider (σ : Type) where
  load : Instant → String → StateM σ (Except ChannelError (Option SessionData))
  save : Instant → String → SessionData → StateM σ (Except ChannelError Unit)

namespace SessionProvider

variable {σ : Type}

/-- Loads the session of a key. -/
def openSession (provider : SessionProvider σ) (now : Instant) (key : String) :
    StateM σ (Except ChannelError Session) := do
  return (← provider.load now key).map (Session.ofStored key)

theorem openSession_eq_ok {provider : SessionProvider σ} {now : Instant} {key : String}
    {before after : σ} {loaded : Session}
    (opened : provider.openSession now key before = (.ok loaded, after)) :
    ∃ stored, loaded = Session.ofStored key stored := by
  have opened : ((provider.load now key before).1.map (Session.ofStored key),
      (provider.load now key before).2) = (.ok loaded, after) := opened
  generalize provider.load now key before = answer at opened
  rcases answer with ⟨_ | stored, state⟩
  · cases opened
  · cases opened
    exact ⟨stored, rfl⟩

/-- Saves, and notes what was to be saved. -/
def saveNoted (provider : SessionProvider σ) (now : Instant) (key : String) (data : SessionData) :
    StateM (σ × List (String × SessionData)) (Except ChannelError Unit) :=
  fun (state, asked) =>
    let (answer, state) := provider.save now key data state
    (answer, state, asked ++ [(key, data)])

end SessionProvider

/-- A store as a provider; loading and saving never fail there. -/
def SessionStore.provider : SessionProvider SessionStore where
  load now key := fun store =>
    let (found, store) := store.load now key
    (.ok found, store)
  save now key data := fun store => (.ok (), store.save now key data)

namespace Session

/-! ## What happens to a session -/

/-- Something that is done with a session. -/
inductive Call where
  | insert (name : String) (value : Json)
  | remove (name : String)
  | save

/-- What was done with a session: whether a field to be removed was there, and what came of
saving. -/
inductive Event where
  | inserted (name : String) (value : Json)
  | removed (name : String) (present : Bool)
  | tried (result : Except ChannelError Bool)

namespace Event

/-- An event changes the data of a session. -/
def Changes : Event → Prop
  | .inserted _ _ => True
  | .removed _ present => present = true
  | .tried _ => False

/-- The session was written, and this went well. -/
def Saves (event : Event) : Prop := event = .tried (.ok true)

end Event

/-- The data was changed, and the session not saved since. -/
def Changed (events : List Event) : Prop :=
  ∃ before event since, events = before ++ event :: since ∧ event.Changes ∧
    ∀ later ∈ since, ¬later.Saves

/-- There is something to save: nothing was stored when the session was loaded and it was never
saved, or it was changed since it was saved last or loaded. -/
def Due (isNew : Bool) (events : List Event) : Prop :=
  (isNew = true ∧ ∀ event ∈ events, ¬event.Saves) ∨ Changed events

theorem changed_concat {events : List Event} {event : Event} :
    Changed (events ++ [event]) ↔ event.Changes ∨ ¬event.Saves ∧ Changed events := by
  constructor
  · rintro ⟨before, change, since, split, changes, unsaved⟩
    rcases concat_eq_append_cons_cases split with ⟨-, rfl⟩ | ⟨rest, rfl, rfl⟩
    · exact Or.inl changes
    · refine Or.inr ⟨unsaved event (List.mem_append_right _ List.mem_cons_self), ?_⟩
      exact ⟨before, change, rest, rfl, changes,
        fun later mem => unsaved later (List.mem_append_left _ mem)⟩
  · rintro (changes | ⟨unsaved, before, change, since, rfl, changes, others⟩)
    · exact ⟨events, event, [], rfl, changes, nofun⟩
    · refine ⟨before, change, since ++ [event], by simp, changes, ?_⟩
      intro later mem
      rcases List.mem_append.mp mem with inSince | isLast
      · exact others later inSince
      · cases List.mem_singleton.mp isLast
        exact unsaved

/-- What an attempt to save comes to, and what the provider was asked to save. -/
structure Attempt (σ : Type) where
  result : Except ChannelError Bool
  session : Session
  state : σ
  asked : List (String × SessionData)

/-- A session at some moment, with the state of its provider and what happened since it was
loaded. -/
structure Record (σ : Type) where
  now : Instant
  session : Session
  state : σ
  events : List Event := []

namespace Record

variable {σ : Type} (provider : SessionProvider σ) {record : Record σ}

/-- Saves the session if there is anything to save. -/
def attempt (record : Record σ) (provider : SessionProvider σ) (now : Instant) : Attempt σ :=
  let ((result, session), state, asked) :=
    (record.session.saveIfModified (provider.saveNoted now)).run (record.state, [])
  { result, session, state, asked }

/-- Does something with a session at some moment. -/
def act (record : Record σ) (provider : SessionProvider σ) (now : Instant) : Call → Record σ
  | .insert name value =>
      { record with
        now
        session := record.session.insert name value
        events := record.events ++ [.inserted name value] }
  | .remove name =>
      { record with
        now
        session := (record.session.remove name).2
        events := record.events ++ [.removed name (Assoc.has record.session.data name)] }
  | .save =>
      let attempt := record.attempt provider now
      { now
        session := attempt.session
        state := attempt.state
        events := record.events ++ [.tried attempt.result] }

/-- Does one thing after another, each a while after the one before. -/
def run (record : Record σ) (provider : SessionProvider σ) (deeds : List (Duration × Call)) :
    Record σ :=
  deeds.foldl (fun record deed => record.act provider (record.now + deed.1) deed.2) record

/-! ## Attempts to save -/

theorem attempt_of_saved (saved : record.session.unsaved = false) (now : Instant) :
    record.attempt provider now = ⟨.ok false, record.session, record.state, []⟩ := by
  rw [attempt, saveIfModified, saved]
  rfl

theorem attempt_of_unsaved (unsaved : record.session.unsaved = true) (now : Instant) :
    record.attempt provider now =
      let asked := [(record.session.key, record.session.data)]
      match provider.save now record.session.key record.session.data record.state with
      | (.ok (), state) => ⟨.ok true, record.session.saved, state, asked⟩
      | (.error error, state) => ⟨.error error, record.session, state, asked⟩ := by
  rw [attempt, saveIfModified, if_pos unsaved]
  simp only [StateT.run, bind, StateT.bind, SessionProvider.saveNoted]
  rcases provider.save now record.session.key record.session.data record.state with
    ⟨_ | _, state⟩
  · rfl
  · rfl

/-! ## What a session remembers -/

/-- The marks of a session tell what happened since it was loaded. -/
structure Sound (loaded : Session) (record : Record σ) : Prop where
  key : record.session.key = loaded.key
  isNew_iff : record.session.isNew = true ↔
    loaded.isNew = true ∧ ∀ event ∈ record.events, ¬event.Saves
  modified_iff : record.session.modified = true ↔ Changed record.events

namespace Sound

variable {loaded : Session}

theorem unsaved_iff (sound : Sound loaded record) :
    record.session.unsaved = true ↔ Due loaded.isNew record.events := by
  rw [unsaved, Bool.or_eq_true, sound.isNew_iff, sound.modified_iff, Due, or_comm]

theorem ofStored (key : String) (stored : Option SessionData) (now : Instant) (state : σ) :
    Sound (ofStored key stored) ⟨now, ofStored key stored, state, []⟩ := by
  refine ⟨rfl, by simp, iff_of_false nofun ?_⟩
  rintro ⟨before, event, since, split, -⟩
  simp at split

/-- An event that is no successful save may have changed the data. -/
theorem goesOn (sound : Sound loaded record) (session : Session) (event : Event)
    (key : session.key = record.session.key) (isNew : session.isNew = record.session.isNew)
    (modified : session.modified = true ↔ event.Changes ∨ record.session.modified = true)
    (unsaved : ¬event.Saves) (now : Instant) (state : σ) :
    Sound loaded ⟨now, session, state, record.events ++ [event]⟩ := by
  refine ⟨key.trans sound.key, ?_, ?_⟩
  · rw [isNew, sound.isNew_iff]
    simp [or_imp, forall_and, unsaved]
  · rw [modified, sound.modified_iff, changed_concat]
    simp [unsaved]

/-- An attempt that saves nothing leaves the session as it is. -/
theorem tried (sound : Sound loaded record) (result : Except ChannelError Bool)
    (failed : result ≠ .ok true) (now : Instant) (state : σ) :
    Sound loaded ⟨now, record.session, state, record.events ++ [.tried result]⟩ := by
  refine sound.goesOn record.session (.tried result) rfl rfl ?_ ?_ now state
  · simp [Event.Changes]
  · simpa [Event.Saves] using failed

/-- After a successful save nothing is left to save. -/
theorem saved (sound : Sound loaded record) (now : Instant) (state : σ) :
    Sound loaded
      ⟨now, record.session.saved, state, record.events ++ [.tried (.ok true)]⟩ := by
  have saves : Event.Saves (.tried (.ok true)) := rfl
  refine ⟨sound.key, iff_of_false nofun ?_, iff_of_false nofun ?_⟩
  · rintro ⟨-, never⟩
    exact never _ (List.mem_append_right _ List.mem_cons_self) saves
  · rw [changed_concat]
    rintro (changes | ⟨unsaved, -⟩)
    · exact changes
    · exact unsaved saves

theorem act (sound : Sound loaded record) (now : Instant) (call : Call) :
    Sound loaded (record.act provider now call) := by
  cases call with
  | insert name value =>
      exact sound.goesOn (record.session.insert name value) (.inserted name value) rfl rfl
        (iff_of_true rfl (Or.inl trivial)) nofun now record.state
  | remove name =>
      refine sound.goesOn (record.session.remove name).2 (.removed name _) rfl rfl ?_ nofun now
        record.state
      change (record.session.modified || _) = true ↔ _
      rw [Bool.or_eq_true, or_comm]
      rfl
  | save =>
      cases unsaved : record.session.unsaved with
      | false =>
          rw [Record.act, attempt_of_saved provider unsaved]
          exact sound.tried (.ok false) nofun now record.state
      | true =>
          rw [Record.act, attempt_of_unsaved provider unsaved]
          rcases provider.save now record.session.key record.session.data record.state with
            ⟨_ | _, state⟩
          · exact sound.tried (.error _) nofun now state
          · exact sound.saved now state

theorem run (sound : Sound loaded record) (deeds : List (Duration × Call)) :
    Sound loaded (record.run provider deeds) := by
  induction deeds generalizing record with
  | nil => exact sound
  | cons deed rest ih => exact ih (sound.act provider _ deed.2)

end Sound

/-- Saving asks the provider once, for the data as they are. If this goes well, nothing is left to
save; if not, the session stays as it is, and the next attempt asks again. -/
structure Writes (record : Record σ) (provider : SessionProvider σ) (now : Instant)
    (key : String) : Prop where
  asked : (record.attempt provider now).asked = [(key, record.session.data)]
  state : (record.attempt provider now).state =
    (provider.save now key record.session.data record.state).2
  result : (record.attempt provider now).result =
    (provider.save now key record.session.data record.state).1.map fun _ => true
  saved : (provider.save now key record.session.data record.state).1 = .ok () →
    (record.attempt provider now).session = record.session.saved
  failed : ∀ error, (provider.save now key record.session.data record.state).1 = .error error →
    (record.attempt provider now).session = record.session ∧
      ∀ later, ((record.act provider now .save).attempt provider later).asked =
        [(key, record.session.data)]

theorem asked_of_unsaved (unsaved : record.session.unsaved = true) (now : Instant) :
    (record.attempt provider now).asked = [(record.session.key, record.session.data)] := by
  rw [attempt_of_unsaved provider unsaved]
  rcases provider.save now record.session.key record.session.data record.state with
    ⟨_ | _, state⟩
  · rfl
  · rfl

theorem writes_of_unsaved (unsaved : record.session.unsaved = true) (now : Instant) :
    record.Writes provider now record.session.key := by
  have asked := asked_of_unsaved provider unsaved now
  have attempted := attempt_of_unsaved provider unsaved now
  rcases answered : provider.save now record.session.key record.session.data record.state with
    ⟨error | done, state⟩
  · have failed : record.attempt provider now = ⟨.error error, record.session, state, _⟩ :=
      attempted.trans (by rw [answered])
    have same : (record.act provider now .save).session = record.session := by
      rw [act, failed]
    refine ⟨asked, by rw [failed, answered], by rw [failed, answered]; rfl, ?_, ?_⟩
    · rw [answered]
      exact nofun
    · intro _ _
      refine ⟨by rw [failed], fun later => ?_⟩
      have again := asked_of_unsaved provider (same.symm ▸ unsaved) later
      rw [again, same]
  · have written : record.attempt provider now = ⟨.ok true, record.session.saved, state, _⟩ :=
      attempted.trans (by rw [answered])
    refine ⟨asked, by rw [written, answered], by rw [written, answered]; rfl, ?_, ?_⟩
    · intro _
      rw [written]
    · rw [answered]
      exact nofun

/-! ## Over a store in which nothing expires -/

/-- Up to some moment a store holds a session that has nothing to save, just as it is, and what is
saved from now on lives that long. -/
structure Backed (finish now : Instant) (session : Session) (store : SessionStore) : Prop where
  lasts : finish < now + store.lifetime
  held : session.unsaved = false → ∃ expiresAt,
    store.sessions.find? session.key = some ⟨session.data, expiresAt⟩ ∧ finish < expiresAt

namespace Backed

variable {finish now later : Instant} {session : Session} {store : SessionStore}
  {record : Record SessionStore}

/-- A session that is loaded is as it is stored, for as long as it lives. -/
theorem ofStored {key : String} (lasts : finish < now + store.lifetime)
    (lives : ∀ stored, store.sessions.find? key = some stored → now < stored.expiresAt →
      finish < stored.expiresAt) :
    Backed finish now (ofStored key (store.load now key).1) (store.load now key).2 := by
  have lifetime := SessionStore.act_lifetime store now (.load key)
  refine ⟨by rw [← lifetime] at lasts; exact lasts, ?_⟩
  intro saved
  cases loaded : (store.load now key).1 with
  | none =>
      rw [loaded] at saved
      cases saved
  | some data =>
      rw [SessionStore.load_fst, Option.map_eq_some_iff] at loaded
      rcases loaded with ⟨stored, found, rfl⟩
      rcases Option.filter_eq_some_iff.mp found with ⟨held, live⟩
      have live := of_decide_eq_true live
      refine ⟨stored.expiresAt, ?_, lives stored held live⟩
      rcases SessionStore.lapses_load store now key key with same | ⟨-, other, isOther, expired⟩
      · exact same.trans held
      · rw [held] at isOther
        cases isOther
        exact absurd live (Nat.not_lt.mpr expired)

theorem load_finish (backed : Backed finish now session store)
    (saved : session.unsaved = false) :
    (store.load finish session.key).1 = some session.data := by
  rcases backed.held saved with ⟨expiresAt, stored, live⟩
  rw [SessionStore.load_fst, stored]
  simp [Option.filter, live]

/-- Over a store an attempt to save goes well, and the session is stored as it is. -/
theorem attempt (backed : Backed finish record.now record.session record.state)
    (le : record.now ≤ now) :
    let attempt := record.attempt SessionStore.provider now
    Backed finish now attempt.session attempt.state ∧ attempt.session.unsaved = false ∧
      attempt.session.key = record.session.key ∧ attempt.session.data = record.session.data ∧
      ∃ written, attempt.result = .ok written := by
  have lasts := Nat.lt_of_lt_of_le backed.lasts (Nat.add_le_add_right le _)
  cases unsaved : record.session.unsaved with
  | false =>
      rw [attempt_of_saved SessionStore.provider unsaved]
      exact ⟨⟨lasts, backed.held⟩, unsaved, rfl, rfl, false, rfl⟩
  | true =>
      have stored := Assoc.find?_insert_self (record.state.prune now).2.sessions
        record.session.key ⟨record.session.data, now + record.state.lifetime⟩
      rw [attempt_of_unsaved SessionStore.provider unsaved]
      exact ⟨⟨lasts, fun _ => ⟨_, stored, lasts⟩⟩, rfl, rfl, rfl, true, rfl⟩

/-- A field that is not there is removed without a trace. -/
theorem remove (backed : Backed finish now session store) (name : String) :
    Backed finish now (session.remove name).2 store := by
  refine ⟨backed.lasts, ?_⟩
  intro saved
  rcases Bool.or_eq_false_iff.mp saved with ⟨unchanged, old⟩
  rcases Bool.or_eq_false_iff.mp unchanged with ⟨unmodified, absent⟩
  have notFound := Option.isNone_iff_eq_none.mp (Option.isSome_eq_false_iff.mp absent)
  have same : (session.remove name).2.data = session.data :=
    Assoc.swapRemove_of_find?_none notFound
  rw [same]
  exact backed.held (Bool.or_eq_false_iff.mpr ⟨unmodified, old⟩)

theorem act (backed : Backed finish record.now record.session record.state)
    (le : record.now ≤ now) (call : Call) :
    let after := record.act SessionStore.provider now call
    Backed finish after.now after.session after.state := by
  have lasts := Nat.lt_of_lt_of_le backed.lasts (Nat.add_le_add_right le _)
  cases call with
  | insert name value => exact ⟨lasts, nofun⟩
  | remove name => exact remove ⟨lasts, backed.held⟩ name
  | save => exact (backed.attempt le).1

theorem run (record : Record SessionStore)
    (backed : Backed finish record.now record.session record.state)
    (deeds : List (Duration × Call)) :
    let after := record.run SessionStore.provider deeds
    Backed finish after.now after.session after.state := by
  induction deeds generalizing record with
  | nil => exact backed
  | cons deed rest ih => exact ih _ (backed.act (Nat.le_add_right _ _) deed.2)

end Backed

end Record

/-! ## Main result -/

/-- Changes of a session are written back, and nothing else is. Whoever provides it, an attempt to
save asks the provider once, for the data as they are, if there is something to save, and else not
at all; a failure leaves the session as it is, to be tried again. Over a store in which nothing
expires meanwhile, saving goes well, and then the session can be loaded just as it is. -/
theorem changes_are_written_back (key : String) (begun : Instant)
    (deeds : List (Duration × Call)) :
    (∀ (σ : Type) (provider : SessionProvider σ) (before after : σ) (loaded : Session),
      provider.openSession begun key before = (.ok loaded, after) →
      let record := Record.run ⟨begun, loaded, after, []⟩ provider deeds
      ∀ now,
        (Due loaded.isNew record.events → record.Writes provider now key) ∧
        (¬Due loaded.isNew record.events →
          record.attempt provider now = ⟨.ok false, record.session, record.state, []⟩)) ∧
    ∀ (store : SessionStore) (finish : Instant), finish < begun + store.lifetime →
      (∀ stored, store.sessions.find? key = some stored → begun < stored.expiresAt →
        finish < stored.expiresAt) →
      ∃ loaded after, SessionStore.provider.openSession begun key store = (.ok loaded, after) ∧
        let record := Record.run ⟨begun, loaded, after, []⟩ SessionStore.provider deeds
        ∀ now, record.now ≤ now →
          let attempt := record.attempt SessionStore.provider now
          (∃ written, attempt.result = .ok written) ∧
          attempt.session.data = record.session.data ∧
          (SessionStore.provider.openSession finish key attempt.state).1 =
            .ok { key, data := record.session.data, modified := false, isNew := false } := by
  constructor
  · intro σ provider before after loaded opened record now
    rcases SessionProvider.openSession_eq_ok opened with ⟨stored, rfl⟩
    have sound := (Record.Sound.ofStored key stored begun after).run provider deeds
    have sameKey : record.session.key = key := sound.key
    constructor
    · intro due
      have writes := Record.writes_of_unsaved provider (sound.unsaved_iff.mpr due) now
      rw [sameKey] at writes
      exact writes
    · intro nothing
      apply Record.attempt_of_saved provider
      rw [← Bool.not_eq_true, sound.unsaved_iff]
      exact nothing
  · intro store finish lasts lives
    refine ⟨ofStored key (store.load begun key).1, (store.load begun key).2, rfl, ?_⟩
    intro record now le attempt
    have sound := (Record.Sound.ofStored key (store.load begun key).1 begun
      (store.load begun key).2).run SessionStore.provider deeds
    have backed : Record.Backed finish record.now record.session record.state :=
      Record.Backed.run ⟨begun, _, _, []⟩ (Record.Backed.ofStored lasts lives) deeds
    rcases backed.attempt le with ⟨after, saved, sameKey, sameData, succeeds⟩
    refine ⟨succeeds, sameData, ?_⟩
    have loaded := after.load_finish saved
    have ownKey : record.session.key = key := sound.key
    rw [sameKey, sameData, ownKey] at loaded
    change Except.ok (ofStored key (attempt.state.load finish key).1) = _
    rw [loaded]
    rfl

/-- Three fields are stored and the first one removed, so that the last one takes its place. Saved
under a key that is new, they are loaded in this order. -/
theorem changes_are_written_back_swapped :
    let record := Record.run ⟨0, ofStored "key" none, { lifetime := 100 }, []⟩
      SessionStore.provider [(0, .insert "a" (.integer 1)), (1, .insert "b" (.integer 2)),
        (1, .insert "c" (.integer 3)), (1, .remove "a")]
    Due true record.events ∧ record.Writes SessionStore.provider 5 "key" ∧
      (SessionStore.provider.openSession 50 "key"
          (record.attempt SessionStore.provider 5).state).1 =
        .ok ⟨"key", [("c", .integer 3), ("b", .integer 2)], false, false⟩ := by
  intro record
  rcases changes_are_written_back "key" 0 [(0, .insert "a" (.integer 1)),
    (1, .insert "b" (.integer 2)), (1, .insert "c" (.integer 3)), (1, .remove "a")] with
    ⟨writes, loads⟩
  have due : Due true record.events := Or.inr ⟨_, .removed "a" true, [], rfl, rfl, nofun⟩
  have asks := (writes SessionStore SessionStore.provider { lifetime := 100 } { lifetime := 100 }
    (ofStored "key" none) rfl 5).1 due
  rcases loads { lifetime := 100 } 50 (by decide) nofun with ⟨loaded, after, opened, reloads⟩
  cases opened
  exact ⟨due, asks, (reloads 5 (by decide)).2.2⟩

end Session

end Courier
