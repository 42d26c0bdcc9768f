import Courier.Channel.Error
import Courier.Data.Assoc
import Courier.Json.Basic

/-!
# Sessions

The data that belongs to a key, as a consumer works on it between loading and saving. Saving writes
only a session that is new or was changed, and a failed save leaves it to be tried again.
-/

namespace Courier

/-- The fields of a session, in the order in which they were first stored. -/
abbrev SessionData := List (String × Json)

/-- A session in the hands of a consumer. -/
structure Session where
  key : String
  data : SessionData
  modified : Bool
  isNew : Bool
  deriving Inhabited

namespace Session

/-- The session of a key, from what was stored under it. -/
def ofStored (key : String) (stored : Option SessionData) : Session :=
  { key, data := stored.getD [], modified := false, isNew := stored.isNone }

def get? (session : Session) (name : String) : Option Json := Assoc.find? session.data name

def insert (session : Session) (name : String) (value : Json) : Session :=
  { session with data := Assoc.insert session.data name value, modified := true }

/-- Removes a field; the last field takes its place. -/
def remove (session : Session) (name : String) : Option Json × Session :=
  let removed := session.get? name
  (removed,
    { session with
      data := Assoc.swapRemove session.data name
      modified := session.modified || removed.isSome })

/-- Whether there is anything to save. -/
def unsaved (session : Session) : Bool := session.modified || session.isNew

def saved (session : Session) : Session := { session with modified := false, isNew := false }

/-- Saves a session if there is anything to save, and tells whether there was. -/
def saveIfModified {m : Type → Type} [Monad m]
    (save : String → SessionData → m (Except ChannelError Unit)) (session : Session) :
    m (Except ChannelError Bool × Session) :=
  if session.unsaved then do
    match ← save session.key session.data with
    | .ok () => return (.ok true, session.saved)
    | .error error => return (.error error, session)
  else return (.ok false, session)

end Session

end Courier
