import Courier.Proofs.Program.Trace
import Courier.Proofs.Session.Expiring

/-!
# Programs over a store of sessions

A store that is empty at first answers a program when it loads and saves sessions, each time a while
after the time before; everything else is answered by some environment. What was done with the store
is read off the trace. As long as a session has not expired, what is loaded under its key is what the
trace saved last.
-/

namespace Courier

namespace Performed

/-- What an action did with the store of sessions. -/
def sessionCall? : Performed → Option SessionStore.Call
  | ⟨.loadSession key, _⟩ => some (.load key)
  | ⟨.saveSession key data, _⟩ => some (.save key data)
  | _ => none

end Performed

namespace Trace

/-- What was done with the store of sessions, in order. -/
def sessionCalls (trace : Trace) : List SessionStore.Call :=
  trace.filterMap Performed.sessionCall?

theorem sessionCalls_append (first second : Trace) :
    sessionCalls (first ++ second) = first.sessionCalls ++ second.sessionCalls :=
  List.filterMap_append

end Trace

/-- A store of sessions that is empty at first: how long its sessions live, when it begins, and how
long after the call before it each call comes. -/
structure SessionHost where
  lifetime : Duration
  begun : Instant := 0
  pauses : Nat → Duration := fun _ => 0

namespace SessionHost

variable (host : SessionHost)

/-- The store and what was done with it. -/
def record (past : Trace) : SessionStore.Record :=
  .ofCalls host.lifetime host.begun
    (past.sessionCalls.mapIdx fun number call => (host.pauses number, call))

/-- The moment of the next call. -/
def next (past : Trace) : Instant :=
  (host.record past).now + host.pauses past.sessionCalls.length

/-- Answers what concerns sessions from the store, and leaves all else to an environment. -/
def serve (others : Environment) : Environment := fun past action =>
  match action with
  | .loadSession key => ((host.record past).store.load (host.next past) key).1
  | .saveSession _ _ => (.ok () : Except ChannelError Unit)
  | .send channel message => others past (.send channel message)
  | .members group => others past (.members group)
  | .pause duration => others past (.pause duration)
  | .report entry => others past (.report entry)
  | .record channel message => others past (.record channel message)
  | .freshKey => others past .freshKey

/-- What was saved last under a key. -/
def saved? (past : Trace) (key : String) : Option SessionData :=
  (SessionStore.lastSave? key (host.record past).events).map Prod.snd

/-- The session of a key, if there is one, would not have expired at the next call. -/
def Lives (past : Trace) (key : String) : Prop :=
  ∀ moment data, SessionStore.lastSave? key (host.record past).events = some (moment, data) →
    host.next past < moment + host.lifetime

/-- No session has expired when it is asked for. -/
def NoneExpires (trace : Trace) : Prop :=
  ∀ before key answer after, trace = before ++ ⟨.loadSession key, answer⟩ :: after →
    host.Lives before key

theorem NoneExpires.of_append {host : SessionHost} {first second : Trace}
    (noneExpires : host.NoneExpires (first ++ second)) : host.NoneExpires first := by
  rintro before key answer after rfl
  exact noneExpires before key answer (after ++ second) (List.append_assoc ..)

/-! ## One more action -/

theorem record_concat (past : Trace) (performed : Performed) :
    host.record (past ++ [performed]) =
      match performed.sessionCall? with
      | none => host.record past
      | some call => (host.record past).note (host.pauses past.sessionCalls.length, call) := by
  cases called : performed.sessionCall? with
  | none => simp [record, Trace.sessionCalls, called]
  | some call =>
      simp [record, Trace.sessionCalls, called, SessionStore.Record.ofCalls, List.mapIdx_append]

theorem saved?_save (past : Trace) (key other : String) (data : SessionData)
    (answer : Except ChannelError Unit) :
    host.saved? (past ++ [⟨.saveSession key data, answer⟩]) other =
      if key = other then some data else host.saved? past other := by
  rw [saved?, record_concat]
  dsimp only [Performed.sessionCall?, SessionStore.Record.note]
  rw [SessionStore.lastSave?_concat, SessionStore.Call.change?]
  split <;> rfl

/-- Only what is saved changes what was saved last. -/
theorem saved?_append {since : Trace} (loads : ∀ call ∈ since.sessionCalls, ∃ key, call = .load key)
    (past : Trace) (key : String) : host.saved? (past ++ since) key = host.saved? past key := by
  induction since generalizing past with
  | nil => rw [List.append_nil]
  | cons first rest ih =>
      have same : host.saved? (past ++ [first]) key = host.saved? past key := by
        rw [saved?, record_concat]
        cases called : first.sessionCall? with
        | none => rfl
        | some call =>
            have mem : call ∈ Trace.sessionCalls (first :: rest) :=
              List.mem_filterMap.mpr ⟨first, List.mem_cons_self, called⟩
            rcases loads call mem with ⟨other, rfl⟩
            dsimp only [SessionStore.Record.note]
            rw [SessionStore.lastSave?_concat]
            rfl
      rw [List.append_cons, ih, same]
      intro call mem
      rcases List.mem_filterMap.mp mem with ⟨performed, inRest, called⟩
      exact loads call (List.mem_filterMap.mpr ⟨performed, List.mem_cons_of_mem _ inRest, called⟩)

/-! ## What is loaded -/

/-- What is loaded is what was saved last, if it lives. -/
theorem serve_loadSession {past : Trace} {key : String} (lives : host.Lives past key)
    (others : Environment) :
    host.serve others past (.loadSession key) = host.saved? past key := by
  have sound : SessionStore.Record.Sound host.lifetime (host.record past) :=
    SessionStore.Record.Sound.ofCalls ..
  have loaded := (sound.holds key).loads (Nat.le_add_right _ (host.pauses past.sessionCalls.length))
  change ((host.record past).store.load (host.next past) key).1 = _
  rw [SessionStore.load_fst, saved?]
  refine loaded.trans (congrArg _ ?_)
  cases saved : SessionStore.lastSave? key (host.record past).events with
  | none => rfl
  | some stored => exact Option.filter_some_pos (decide_eq_true (lives stored.1 stored.2 saved))

/-! ## Brief traces -/

theorem begun_le (past : Trace) :
    host.begun ≤ (host.record past).now ∧
      ∀ event ∈ (host.record past).events, host.begun ≤ event.1 := by
  induction past using List.reverseRecOn with
  | nil => exact ⟨Nat.le_refl _, nofun⟩
  | append_singleton past performed ih =>
      rw [record_concat]
      cases performed.sessionCall? with
      | none => exact ih
      | some call =>
          have later := Nat.le_trans ih.1 (Nat.le_add_right _
            (host.pauses (Trace.sessionCalls past).length))
          refine ⟨later, ?_⟩
          intro event mem
          rcases List.mem_append.mp mem with old | new
          · exact ih.2 event old
          · cases List.mem_singleton.mp new
            exact later

theorem now_le {longest : Duration} (bound : ∀ number, host.pauses number ≤ longest)
    (past : Trace) :
    (host.record past).now ≤ host.begun + past.sessionCalls.length * longest := by
  induction past using List.reverseRecOn with
  | nil => exact Nat.le_add_right _ _
  | append_singleton past performed ih =>
      rw [record_concat, Trace.sessionCalls_append, List.length_append]
      cases called : performed.sessionCall? with
      | none => simpa [Trace.sessionCalls, called] using ih
      | some call =>
          have one : (Trace.sessionCalls [performed]).length = 1 := by
            simp [Trace.sessionCalls, called]
          rw [one, Nat.succ_mul, ← Nat.add_assoc]
          exact Nat.add_le_add ih (bound _)

/-- Within the lifetime of a session that was saved at the very beginning none expires. -/
theorem noneExpires_of_brief {longest : Duration} (bound : ∀ number, host.pauses number ≤ longest)
    {trace : Trace} (brief : trace.sessionCalls.length * longest < host.lifetime) :
    host.NoneExpires trace := by
  rintro before key answer after rfl moment data saved
  have begun : host.begun ≤ moment := by
    rcases SessionStore.lastSave?_eq_some_iff.mp saved with ⟨early, since, split, -⟩
    have mem : (moment, SessionStore.Call.save key data) ∈ (host.record before).events := by
      rw [split]
      exact List.mem_append_right _ List.mem_cons_self
    exact (host.begun_le before).2 _ mem
  have next : host.next before ≤ host.begun + (before.sessionCalls.length + 1) * longest := by
    rw [Nat.succ_mul, ← Nat.add_assoc]
    exact Nat.add_le_add (host.now_le bound before) (bound _)
  -- the load behind the earlier calls is a call of the whole trace, too
  have fewer : before.sessionCalls.length + 1 ≤
      (Trace.sessionCalls (before ++ ⟨.loadSession key, answer⟩ :: after)).length := by
    rw [Trace.sessionCalls_append, List.length_append]
    exact Nat.add_le_add_left (Nat.le_add_left 1 _) _
  calc
    host.next before ≤ host.begun + (before.sessionCalls.length + 1) * longest := next
    _ ≤ host.begun + _ * longest := Nat.add_le_add_left (Nat.mul_le_mul_right longest fewer) _
    _ < host.begun + host.lifetime := Nat.add_lt_add_left brief _
    _ ≤ moment + host.lifetime := Nat.add_le_add_right begun _

end SessionHost

end Courier
