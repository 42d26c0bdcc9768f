import Courier.Proofs.Data.Dict
import Courier.Session.Store
import Mathlib.Data.Set.Card

/-!
# Sessions live until they expire

What is done with a store of sessions over time: sessions are loaded, looked for, saved and deleted,
and expired ones are dropped, each at its moment. A store drops an expired session when it is asked
for, when anything is saved, and when it is told to, so what it holds depends on who asked for what.
What is loaded does not: it is what was saved last under the key, if it was not deleted since and
its time is not over.

So of each key one knows what the store may hold: what was saved last, or nothing once its time is
over. That each call keeps this is read off what the call does to a single key.
-/

namespace Courier

namespace SessionStore

/-! ## Calls -/

/-- Something that is done with a store. -/
inductive Call where
  | load (key : String)
  | contains (key : String)
  | save (key : String) (data : SessionData)
  | delete (key : String)
  | prune

namespace Call

/-- A call saves or deletes the session of a key. -/
def Changes (key : String) : Call → Prop
  | .save other _ | .delete other => other = key
  | _ => False

/-- What a call means for a key: its session is saved at this moment, or it is deleted. -/
def change? (key : String) (now : Instant) : Call → Option (Option (Instant × SessionData))
  | .save other data => if other = key then some (some (now, data)) else none
  | .delete other => if other = key then some none else none
  | _ => none

variable {key : String} {now : Instant} {call : Call}

theorem change?_eq_none_iff : call.change? key now = none ↔ ¬call.Changes key := by
  cases call with
  | load | contains | prune => exact iff_of_true rfl not_false
  | save other | delete other => by_cases same : other = key <;> simp [change?, Changes, same]

theorem change?_eq_save_iff {moment : Instant} {data : SessionData} :
    call.change? key now = some (some (moment, data)) ↔ now = moment ∧ call = .save key data := by
  cases call with
  | load | contains | prune => exact iff_of_false nofun nofun
  | save other | delete other => by_cases same : other = key <;> simp [change?, same]

end Call

/-- Does something with a store at some moment. -/
def act (store : SessionStore) (now : Instant) : Call → SessionStore
  | .load key => (store.load now key).2
  | .contains key => (store.contains now key).2
  | .save key data => store.save now key data
  | .delete key => store.delete key
  | .prune => (store.prune now).2

/-- What was saved last under a key, with the moment, unless it was deleted since. -/
def lastSave? (key : String) (events : List (Instant × Call)) : Option (Instant × SessionData) :=
  (events.filterMap fun event => event.2.change? key event.1).getLast?.join

theorem lastSave?_concat (key : String) (events : List (Instant × Call)) (now : Instant)
    (call : Call) :
    lastSave? key (events ++ [(now, call)]) =
      (call.change? key now).getD (lastSave? key events) := by
  cases change : call.change? key now <;> simp [lastSave?, change]

theorem lastSave?_eq_some_iff {key : String} {events : List (Instant × Call)} {moment : Instant}
    {data : SessionData} :
    lastSave? key events = some (moment, data) ↔
      ∃ before since, events = before ++ (moment, .save key data) :: since ∧
        ∀ event ∈ since, ¬event.2.Changes key := by
  rw [lastSave?, Option.join_eq_some_iff, List.getLast?_filterMap, List.findSome?_eq_some_iff]
  constructor
  · rintro ⟨since, ⟨now, call⟩, before, split, saves, others⟩
    rcases Call.change?_eq_save_iff.mp saves with ⟨rfl, rfl⟩
    refine ⟨before.reverse, since.reverse, ?_, ?_⟩
    · simpa using congrArg List.reverse split
    · intro event mem
      exact Call.change?_eq_none_iff.mp (others event (List.mem_reverse.mp mem))
  · rintro ⟨before, since, rfl, others⟩
    refine ⟨since.reverse, (moment, .save key data), before.reverse, by simp, ?_, ?_⟩
    · exact Call.change?_eq_save_iff.mpr ⟨rfl, rfl⟩
    · intro event mem
      exact Call.change?_eq_none_iff.mpr (others event (List.mem_reverse.mp mem))

/-! ## What a call does to a single key -/

variable {store : SessionStore} {now later : Instant} {key : String}

theorem load_fst (store : SessionStore) (now : Instant) (key : String) :
    (store.load now key).1 =
      ((store.sessions.find? key).filter fun stored => now < stored.expiresAt).map
        StoredSession.data := by
  rw [load]
  cases store.sessions.find? key with
  | none => rfl
  | some stored =>
      by_cases live : now < stored.expiresAt
      · simp [live]
      · simp [live, Nat.not_lt.mp live]

/-- The moment of a save decides over the sessions that are dropped and over the new one. -/
theorem save_sessions (store : SessionStore) (now : Instant) (key : String) (data : SessionData) :
    (store.save now key data).sessions =
      (store.prune now).2.sessions.insert key ⟨data, now + store.lifetime⟩ := rfl

/-- What is found under a key is left, or it has expired and is dropped. -/
def Lapses (now : Instant) (before after : Option StoredSession) : Prop :=
  after = before ∨ after = none ∧ ∃ stored, before = some stored ∧ stored.expiresAt ≤ now

theorem lapses_load (store : SessionStore) (now : Instant) (key other : String) :
    Lapses now (store.sessions.find? other) ((store.load now key).2.sessions.find? other) := by
  rw [load]
  cases found : store.sessions.find? key with
  | none => exact Or.inl rfl
  | some stored =>
      dsimp only
      split
      case isTrue => exact Or.inl rfl
      case isFalse expired =>
          by_cases same : other = key
          · subst same
            exact Or.inr ⟨Assoc.find?_erase_self _ _, stored, found, Nat.not_lt.mp expired⟩
          · exact Or.inl (Assoc.find?_erase_of_ne _ same)

theorem find?_prune (distinct : store.sessions.Distinct) (now : Instant) (key : String) :
    (store.prune now).2.sessions.find? key =
      (store.sessions.find? key).filter fun stored => now < stored.expiresAt :=
  Assoc.find?_filter distinct (fun stored => now < stored.expiresAt) key

theorem lapses_prune (distinct : store.sessions.Distinct) (now : Instant) (key : String) :
    Lapses now (store.sessions.find? key) ((store.prune now).2.sessions.find? key) := by
  rw [find?_prune distinct]
  cases store.sessions.find? key with
  | none => exact Or.inl rfl
  | some stored =>
      by_cases live : now < stored.expiresAt
      · exact Or.inl (by simp [live])
      · have expired := Nat.not_lt.mp live
        exact Or.inr ⟨by simp [expired], stored, rfl, expired⟩

theorem lapses_act (distinct : store.sessions.Distinct) {call : Call}
    (unchanged : ¬call.Changes key) :
    Lapses now (store.sessions.find? key) ((store.act now call).sessions.find? key) := by
  cases call with
  | load other | contains other => exact lapses_load store now other key
  | prune => exact lapses_prune distinct now key
  | save other data =>
      rw [act, save_sessions, Assoc.find?_insert_of_ne _ _ (Ne.symm unchanged)]
      exact lapses_prune distinct now key
  | delete other => exact Or.inl (Assoc.find?_erase_of_ne _ (Ne.symm unchanged))

/-- A session in its store, as it was saved at some moment. -/
def storedAt (lifetime : Duration) (saved : Instant × SessionData) : StoredSession :=
  ⟨saved.2, saved.1 + lifetime⟩

theorem find?_act_of_change {call : Call} {saved : Option (Instant × SessionData)}
    (change : call.change? key now = some saved) :
    (store.act now call).sessions.find? key = saved.map (storedAt store.lifetime) := by
  cases call with
  | load | contains | prune => cases change
  | save other data =>
      rw [Call.change?] at change
      split at change
      case isTrue same =>
          subst same
          cases change
          exact Assoc.find?_insert_self _ _ _
      case isFalse => cases change
  | delete other =>
      rw [Call.change?] at change
      split at change
      case isTrue same =>
          subst same
          cases change
          exact Assoc.find?_erase_self _ _
      case isFalse => cases change

theorem act_lifetime (store : SessionStore) (now : Instant) (call : Call) :
    (store.act now call).lifetime = store.lifetime := by
  cases call with
  | save | delete | prune => rfl
  | load key | contains key =>
      change (store.load now key).2.lifetime = store.lifetime
      rw [load]
      split
      · rfl
      · split <;> rfl

theorem distinct_act (distinct : store.sessions.Distinct) (now : Instant) (call : Call) :
    (store.act now call).sessions.Distinct := by
  have erased : ∀ key, (store.sessions.erase key).Distinct := fun key =>
    Assoc.distinct_filter distinct _
  cases call with
  | save key data => exact Assoc.distinct_insert (Assoc.distinct_filter distinct _)
  | delete key => exact erased key
  | prune => exact Assoc.distinct_filter distinct _
  | load key | contains key =>
      change (store.load now key).2.sessions.Distinct
      rw [load]
      split
      · exact distinct
      · split
        · exact distinct
        · exact erased key

/-- What has expired is not loaded any later either, dropped or not. -/
theorem Lapses.load_eq {after : SessionStore}
    (lapses : Lapses now (store.sessions.find? key) (after.sessions.find? key))
    (le : now ≤ later) : (after.load later key).1 = (store.load later key).1 := by
  rw [load_fst, load_fst]
  rcases lapses with same | ⟨gone, stored, found, expired⟩
  · rw [same]
  · rw [gone, found]
    simp [Nat.le_trans expired le]

/-! ## Counting sessions -/

/-- As many entries pass a test as there are keys under which such an entry is found. -/
theorem ncard_keys {sessions : Assoc StoredSession} (distinct : sessions.Distinct)
    (test : StoredSession → Bool) :
    {key | ∃ stored, sessions.find? key = some stored ∧ test stored = true}.ncard =
      (sessions.filter fun entry => test entry.2).length := by
  have distinctPassing := Assoc.distinct_filter distinct fun entry => test entry.2
  have keys : {key | ∃ stored, sessions.find? key = some stored ∧ test stored = true} =
      ↑(Assoc.keys (sessions.filter fun entry => test entry.2)).toFinset := by
    ext key
    rw [Finset.mem_coe, List.mem_toFinset, Assoc.mem_keys]
    simp only [Assoc.find?_filter distinct, Option.filter_eq_some_iff, Set.mem_ofPred_eq]
  rw [keys, Set.ncard_coe_finset, List.toFinset_card_of_nodup distinctPassing, Assoc.keys,
    List.length_map]

theorem prune_fst (distinct : store.sessions.Distinct) (now : Instant) :
    (store.prune now).1 =
      {key | ∃ stored, store.sessions.find? key = some stored ∧ stored.expiresAt ≤ now}.ncard := by
  have expired := ncard_keys distinct fun stored => !decide (now < stored.expiresAt)
  simp only [Bool.not_eq_true', decide_eq_false_iff_not, Nat.not_lt] at expired
  have counted := @List.length_eq_length_filter_add _ store.sessions fun entry =>
    decide (now < entry.2.expiresAt)
  rw [expired, prune, size]
  omega

/-- Right after a session was saved, nothing that is held has expired. -/
theorem live_save (distinct : store.sessions.Distinct) (positive : 0 < store.lifetime)
    {saved : String} {data : SessionData} {stored : StoredSession}
    (found : (store.save now saved data).sessions.find? key = some stored) :
    now < stored.expiresAt := by
  rw [save_sessions] at found
  rcases Assoc.find?_insert_cases found with ⟨-, rfl⟩ | ⟨-, kept⟩
  · exact Nat.lt_add_of_pos_right positive
  · rw [find?_prune distinct, Option.filter_eq_some_iff] at kept
    exact of_decide_eq_true kept.2

theorem size_save (distinct : store.sessions.Distinct) (positive : 0 < store.lifetime)
    (saved : String) (data : SessionData) :
    (store.save now saved data).size =
      {key | ((store.save now saved data).load now key).1.isSome = true}.ncard := by
  have kept : (store.save now saved data).sessions.Distinct :=
    distinct_act distinct now (.save saved data)
  have all := ncard_keys kept fun _ => true
  rw [List.filter_true] at all
  rw [size, ← all]
  congr 1
  ext key
  rw [Set.mem_ofPred_eq, Set.mem_ofPred_eq, load_fst, Option.isSome_map,
    Option.isSome_iff_exists]
  constructor
  · rintro ⟨stored, found, -⟩
    exact ⟨stored, Option.filter_eq_some_iff.mpr
      ⟨found, decide_eq_true (live_save distinct positive found)⟩⟩
  · rintro ⟨stored, found⟩
    exact ⟨stored, (Option.filter_eq_some_iff.mp found).1, rfl⟩

/-! ## What a store may hold -/

/-- What is found under a key is what was saved last, or nothing once its time is over. -/
inductive Holds (lifetime : Duration) (now : Instant) :
    Option StoredSession → Option (Instant × SessionData) → Prop
  | fresh (saved : Option (Instant × SessionData)) :
      Holds lifetime now (saved.map (storedAt lifetime)) saved
  | dropped {saved : Instant × SessionData} (past : saved.1 + lifetime ≤ now) :
      Holds lifetime now none (some saved)

namespace Holds

variable {lifetime : Duration} {found after : Option StoredSession}
  {saved : Option (Instant × SessionData)}

/-- Sessions may be dropped when their time is over. -/
theorem lapse (holds : Holds lifetime now found saved) (le : now ≤ later)
    (lapses : Lapses later found after) : Holds lifetime later after saved := by
  cases holds with
  | fresh =>
      rcases lapses with rfl | ⟨rfl, stored, found, expired⟩
      · exact .fresh saved
      · rcases Option.map_eq_some_iff.mp found with ⟨session, rfl, rfl⟩
        exact .dropped expired
  | dropped past =>
      rcases lapses with rfl | ⟨rfl, -⟩
      · exact .dropped (Nat.le_trans past le)
      · exact .dropped (Nat.le_trans past le)

/-- Whether a session is loaded depends only on what was saved and when. -/
theorem loads (holds : Holds lifetime now found saved) (le : now ≤ later) :
    (found.filter fun stored => later < stored.expiresAt).map StoredSession.data =
      (saved.filter fun saved => later < saved.1 + lifetime).map Prod.snd := by
  cases holds with
  | fresh =>
      cases saved with
      | none => rfl
      | some saved =>
          by_cases live : later < saved.1 + lifetime <;> simp [storedAt, Option.filter, live]
  | dropped past => simp [Nat.le_trans past le]

theorem saved_of_found {stored : StoredSession} (holds : Holds lifetime now (some stored) saved) :
    ∃ moment, saved = some (moment, stored.data) ∧ stored.expiresAt = moment + lifetime := by
  generalize same : some stored = found at holds
  cases holds with
  | fresh =>
      rcases Option.map_eq_some_iff.mp same.symm with ⟨⟨moment, data⟩, rfl, rfl⟩
      exact ⟨moment, rfl, rfl⟩
  | dropped past => cases same

end Holds

/-! ## Records -/

/-- A store at some moment, and what was done with it so far. -/
structure Record where
  now : Instant
  store : SessionStore
  events : List (Instant × Call) := []

namespace Record

/-- Does something with a store after a while. -/
def note (record : Record) (deed : Duration × Call) : Record where
  now := record.now + deed.1
  store := record.store.act (record.now + deed.1) deed.2
  events := record.events ++ [(record.now + deed.1, deed.2)]

/-- The record of calls to a store that was empty at first, each a while after the one before. -/
def ofCalls (lifetime : Duration) (begun : Instant) (deeds : List (Duration × Call)) : Record :=
  deeds.foldl note ⟨begun, { lifetime }, []⟩

/-- A store may hold what was saved last under each key. -/
structure Sound (lifetime : Duration) (record : Record) : Prop where
  lasts : record.store.lifetime = lifetime
  distinct : record.store.sessions.Distinct
  holds : ∀ key, Holds lifetime record.now (record.store.sessions.find? key)
    (lastSave? key record.events)

namespace Sound

variable {lifetime : Duration} {record : Record}

theorem note (sound : Sound lifetime record) (deed : Duration × Call) :
    Sound lifetime (record.note deed) := by
  rcases deed with ⟨pause, call⟩
  refine ⟨(act_lifetime ..).trans sound.lasts, distinct_act sound.distinct _ call, ?_⟩
  intro key
  simp only [Record.note, lastSave?_concat]
  cases change : call.change? key (record.now + pause) with
  | none =>
      have unchanged := Call.change?_eq_none_iff.mp change
      exact (sound.holds key).lapse (Nat.le_add_right _ pause)
        (lapses_act sound.distinct unchanged)
  | some saved =>
      rw [find?_act_of_change change, sound.lasts]
      exact .fresh saved

theorem run (sound : Sound lifetime record) (deeds : List (Duration × Call)) :
    Sound lifetime (deeds.foldl Record.note record) := by
  induction deeds generalizing record with
  | nil => exact sound
  | cons deed rest ih => exact ih (sound.note deed)

theorem ofCalls (lifetime : Duration) (begun : Instant) (deeds : List (Duration × Call)) :
    Sound lifetime (ofCalls lifetime begun deeds) := by
  apply run
  exact ⟨rfl, List.nodup_nil, fun _ => .fresh none⟩

end Sound

end Record

/-! ## Main result -/

/-- The last change of a key was that this data was saved under it, at this moment. -/
def SavedLast (events : List (Instant × Call)) (key : String) (moment : Instant)
    (data : SessionData) : Prop :=
  ∃ before since, events = before ++ (moment, .save key data) :: since ∧
    ∀ event ∈ since, ¬event.2.Changes key

/-- A store of sessions is a map whose entries expire. What is loaded is what was saved last, unless
it was deleted since or its time is over, and what is done under other keys makes no difference.
All that a store holds was saved last under its key; pruning drops just the expired part of it and
tells how many sessions these were. And right after a session was saved, if sessions live at all, as
many are held as can be loaded. -/
theorem sessions_live_until_they_expire (lifetime : Duration) (begun : Instant)
    (deeds : List (Duration × Call)) :
    let record := Record.ofCalls lifetime begun deeds
    let store := record.store
    ∀ now, record.now ≤ now →
      (∀ key data, (store.load now key).1 = some data ↔
        ∃ moment, SavedLast record.events key moment data ∧ now < moment + lifetime) ∧
      (∀ key, (store.contains now key).1 = (store.load now key).1.isSome) ∧
      (∀ key call, ¬call.Changes key → ∀ later, now ≤ later →
        ((store.act now call).load later key).1 = (store.load later key).1) ∧
      (∀ key stored, store.sessions.find? key = some stored →
        ∃ moment, SavedLast record.events key moment stored.data ∧
          stored.expiresAt = moment + lifetime) ∧
      (∀ key, (store.prune now).2.sessions.find? key =
        (store.sessions.find? key).filter fun stored => now < stored.expiresAt) ∧
      (store.prune now).1 =
        {key | ∃ stored, store.sessions.find? key = some stored ∧ stored.expiresAt ≤ now}.ncard ∧
      (0 < lifetime → ∀ key data, (store.save now key data).size =
        {other | ((store.save now key data).load now other).1.isSome = true}.ncard) := by
  intro record store now le
  have sound : Record.Sound lifetime record := Record.Sound.ofCalls lifetime begun deeds
  refine ⟨?_, fun _ => rfl, ?_, ?_, ?_, ?_, ?_⟩
  · intro key data
    rw [load_fst, (sound.holds key).loads le, Option.map_eq_some_iff]
    constructor
    · rintro ⟨⟨moment, saved⟩, passes, rfl⟩
      rcases Option.filter_eq_some_iff.mp passes with ⟨isLast, live⟩
      exact ⟨moment, lastSave?_eq_some_iff.mp isLast, of_decide_eq_true live⟩
    · rintro ⟨moment, isLast, live⟩
      exact ⟨(moment, data), Option.filter_eq_some_iff.mpr
        ⟨lastSave?_eq_some_iff.mpr isLast, decide_eq_true live⟩, rfl⟩
  · intro key call unchanged later soon
    exact (lapses_act sound.distinct unchanged).load_eq soon
  · intro key stored found
    have holds := sound.holds key
    rw [found] at holds
    rcases holds.saved_of_found with ⟨moment, isLast, expiry⟩
    exact ⟨moment, lastSave?_eq_some_iff.mp isLast, expiry⟩
  · exact find?_prune sound.distinct now
  · exact prune_fst sound.distinct now
  · intro positive key data
    exact size_save sound.distinct (sound.lasts.symm ▸ positive) key data

/-- A session that was saved again lives on when its first save would have expired. It is deleted
with no effect on the other one, and saving a third one leaves as many as can be loaded. -/
theorem sessions_live_until_they_expire_refreshed :
    let record := Record.ofCalls 30 0
      [(0, .save "a" []), (10, .save "b" []), (10, .save "a" [("n", .integer 2)]), (20, .prune)]
    record.now ≤ 49 ∧ (record.store.load 49 "a").1 = some [("n", .integer 2)] ∧
      ((record.store.act 49 (.delete "b")).load 50 "a").1 = (record.store.load 50 "a").1 ∧
      (record.store.save 49 "c" []).size =
        {other | ((record.store.save 49 "c" []).load 49 other).1.isSome = true}.ncard := by
  intro record
  have soon : record.now ≤ 49 := by decide
  rcases sessions_live_until_they_expire 30 0 [(0, .save "a" []), (10, .save "b" []),
    (10, .save "a" [("n", .integer 2)]), (20, .prune)] 49 soon with
    ⟨loads, -, apart, -, -, -, counts⟩
  have saved : SavedLast record.events "a" 20 [("n", .integer 2)] :=
    ⟨[(0, .save "a" []), (10, .save "b" [])], [(40, .prune)], rfl, by simp [Call.Changes]⟩
  refine ⟨soon, (loads _ _).mpr ⟨20, saved, by decide⟩, ?_, counts (by decide) "c" []⟩
  exact apart "a" (.delete "b") (by simp [Call.Changes]) 50 (by decide)

end SessionStore

end Courier
