import Courier.Session.Basic
import Courier.Time

/-!
# Session stores

Sessions by key, each of which lives for a fixed time after it was saved. Expired sessions are never
seen; they are dropped when they are asked for and whenever something is saved.
-/

namespace Courier

/-- A session in its store, with the moment at which it expires. -/
structure StoredSession where
  data : SessionData
  expiresAt : Instant
  deriving Inhabited

/-- Sessions by key. -/
structure SessionStore where
  sessions : Assoc StoredSession := []
  lifetime : Duration
  deriving Inhabited

namespace SessionStore

/-- How long a session lives if nothing else is said: two weeks. -/
def defaultLifetime : Duration := Duration.ofSeconds (14 * 24 * 60 * 60)

def size (store : SessionStore) : Nat := store.sessions.length

/-- Drops expired sessions and tells how many there were. -/
def prune (store : SessionStore) (now : Instant) : Nat × SessionStore :=
  let kept := store.sessions.filter fun entry => now < entry.2.expiresAt
  (store.size - kept.length, { store with sessions := kept })

def load (store : SessionStore) (now : Instant) (key : String) :
    Option SessionData × SessionStore :=
  match store.sessions.find? key with
  | none => (none, store)
  | some stored =>
      if now < stored.expiresAt then (some stored.data, store)
      else (none, { store with sessions := store.sessions.erase key })

def contains (store : SessionStore) (now : Instant) (key : String) : Bool × SessionStore :=
  let (found, store) := store.load now key
  (found.isSome, store)

def save (store : SessionStore) (now : Instant) (key : String) (data : SessionData) :
    SessionStore :=
  let (_, store) := store.prune now
  { store with sessions := store.sessions.insert key ⟨data, now + store.lifetime⟩ }

def delete (store : SessionStore) (key : String) : SessionStore :=
  { store with sessions := store.sessions.erase key }

end SessionStore

end Courier
