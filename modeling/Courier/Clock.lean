import Courier.Session.Store
import Courier.Store.Receiving

/-!
# Clocks with a last moment

Moments have no end, but the clock of a platform has a last one. A call that needs a moment beyond
it breaks down: it has no answer, and what it has done by then stays done. Sending opens the queue
and drops expired messages in front before it fixes when the message expires. Receiving fixes its
deadline before it looks, so it may break down where there is something to receive. Saving a session
drops the expired ones first.
-/

namespace Courier

/-- The clock of a platform, by the last moment that it can show. -/
structure Clock where
  last : Instant

namespace Clock

variable (clock : Clock)

/-- The moment that comes some time after another, if the clock can show it. -/
def after? (now : Instant) (duration : Duration) : Option Instant :=
  if now + duration ≤ clock.last then some (now + duration) else none

def push (store : Store) (now : Instant) (channel : String) (message : Message) :
    Option (Except ChannelError Unit) × Store :=
  let queue := Store.trim now (store.queue channel)
  let trimmed := { store with queues := store.queues.insert channel queue }
  if Store.full store.settings queue then (some (.error (.channelFull channel)), trimmed)
  else
    match clock.after? now store.settings.messageExpiry with
    | none => (none, trimmed)
    | some expiresAt =>
        (some (.ok ()),
          { store with queues := store.queues.insert channel (queue ++ [⟨message, expiresAt⟩]) })

def send (store : Store) (now : Instant) (channel : String) (message : Message) :
    Option (Except ChannelError Unit) × Store :=
  match clock.push store now channel message with
  | (some (.ok ()), store) => (some (.ok ()), store.announce)
  | (answer, store) => (answer, store)

def receive (store : Store) (now : Instant) (channels : List String) (block : Bool) :
    Option Receipt × Store :=
  if channels.isEmpty then (some .nothing, store)
  else
    match clock.after? now store.settings.receiveTimeout with
    | none => (none, store)
    | some deadline =>
        match store.take now channels with
        | (some (channel, message), store) => (some (.received channel message), store)
        | (none, store) =>
            if block then (some (.waiting ⟨channels, deadline, store.announcements⟩), store)
            else (some .nothing, store)

def join (store : Store) (now : Instant) (group channel : String) : Option Unit × Store :=
  match clock.after? now store.settings.groupExpiry with
  | none => (none, store)
  | some endsAt => (some (), store.putGroup group ((store.group group).insert channel endsAt))

def save (store : SessionStore) (now : Instant) (key : String) (data : SessionData) :
    Option Unit × SessionStore :=
  let (_, store) := store.prune now
  match clock.after? now store.lifetime with
  | none => (none, store)
  | some expiresAt =>
      (some (), { store with sessions := store.sessions.insert key ⟨data, expiresAt⟩ })

end Clock

end Courier
