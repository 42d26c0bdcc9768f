import Courier.Scenario.Answer
import Courier.Scenario.Reading
import Courier.Session.Store

/-!
# Scenarios with sessions

Steps on a session store and on several sessions that were loaded from it.
-/

namespace Courier.Scenario

/-- A session store and the sessions in the hands of consumers, by label. -/
structure SessionBench where
  store : SessionStore
  sessions : Assoc Session := []

/-- The written form of session data, as a text. -/
def dataText (data : SessionData) : Json := valueText (.object data)

/-- Saves to the store of a bench, where no session expires. -/
def saveInStore (key : String) (data : SessionData) :
    StateM SessionStore (Except ChannelError Unit) := do
  modify fun store => store.save 0 key data
  return .ok ()

def sessionStep (bench : SessionBench) (step : Json) : SessionBench × Json :=
  let name := text (nth step 1)
  let session : Session := (bench.sessions.find? name).getD default
  let put (next : Session) : SessionBench :=
    { bench with sessions := bench.sessions.insert name next }
  match text (nth step 0) with
  | "load" =>
      let key := text (nth step 2)
      let (stored, store) := bench.store.load 0 key
      let session := Session.ofStored key stored
      ({ store, sessions := bench.sessions.insert name session }, ok (.bool session.isNew))
  | "insert" =>
      let next := session.insert (text (nth step 2)) (nth step 3)
      (put next, ok (dataText next.data))
  | "remove" =>
      let (removed, next) := session.remove (text (nth step 2))
      (put next, ok (optional (removed.map valueText)))
  | "get" => (bench, ok (optional ((session.get? (text (nth step 2))).map valueText)))
  | "save" =>
      let ((result, next), store) := (session.saveIfModified saveInStore).run bench.store
      ({ store, sessions := bench.sessions.insert name next }, wrapped Json.bool result)
  | "state" =>
      (bench, ok (.object
        [("key", .text session.key), ("new", .bool session.isNew),
          ("modified", .bool session.modified), ("data", dataText session.data)]))
  | "store_load" =>
      let (stored, store) := bench.store.load 0 name
      ({ bench with store }, ok (optional (stored.map dataText)))
  | "store_save" =>
      let store := bench.store.save 0 name (fieldsOf (nth step 2))
      ({ bench with store }, ok (.natural store.size))
  | "delete" =>
      let store := bench.store.delete name
      ({ bench with store }, ok (.natural store.size))
  | "exists" =>
      let (found, store) := bench.store.contains 0 name
      ({ bench with store }, ok (.bool found))
  | "len" =>
      (bench, ok (.array [.natural bench.store.size, .bool (bench.store.size == 0)]))
  | "prune" =>
      let (count, store) := bench.store.prune 0
      ({ bench with store }, ok (.natural count))
  | _ => (bench, ok (.natural bench.store.lifetime.wholeMillis))

end Courier.Scenario
