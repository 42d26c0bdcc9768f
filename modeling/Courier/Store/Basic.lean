import Courier.Data.Assoc
import Courier.Data.Dict
import Courier.Message
import Courier.Settings.Store

/-!
# Stores

A store keeps, for every channel, the messages that were sent and not yet received, oldest first,
each with the moment at which it expires. Expired messages are dropped when they come into the way:
at the front of a queue when something is sent to it, and on the way to a live message when
something is received. A channel without messages has no queue.

Putting a message into its queue and announcing it are two steps, so that a receiver may look in
between.
-/

namespace Courier

/-- A message in its queue, with the moment at which it expires. -/
structure Queued where
  message : Message
  expiresAt : Instant
  deriving Inhabited

def Queued.live (now : Instant) (queued : Queued) : Bool := now < queued.expiresAt

/-- The messages and group members that a process holds. -/
structure Store where
  settings : StoreSettings
  queues : Assoc (List Queued) := []
  groups : Assoc (Dict Instant) := []
  announcements : Nat := 0
  deriving Inhabited

namespace Store

/-- The queue of a channel, expired messages included. -/
def queue (store : Store) (channel : String) : List Queued :=
  (store.queues.find? channel).getD []

def live (store : Store) (now : Instant) (channel : String) : List Message :=
  ((store.queue channel).filter (Queued.live now)).map Queued.message

def queued (store : Store) (now : Instant) (channel : String) : Nat :=
  (store.live now channel).length

/-- Drops expired messages from the front of a queue. -/
def trim (now : Instant) (queue : List Queued) : List Queued :=
  queue.dropWhile fun queued => !queued.live now

/-- Whether a queue has no room for another message. -/
def full (settings : StoreSettings) (queue : List Queued) : Bool :=
  0 < settings.capacity && settings.capacity ≤ queue.length

/-- Puts a message at the end of the queue of a channel, unless the queue is full. -/
def push (store : Store) (now : Instant) (channel : String) (message : Message) :
    Except ChannelError Unit × Store :=
  let queue := trim now (store.queue channel)
  if full store.settings queue then
    (.error (.channelFull channel), { store with queues := store.queues.insert channel queue })
  else
    let queued : Queued := ⟨message, now + store.settings.messageExpiry⟩
    (.ok (), { store with queues := store.queues.insert channel (queue ++ [queued]) })

def announce (store : Store) : Store := { store with announcements := store.announcements + 1 }

/-- Sends a message to a channel, unless the channel is full. -/
def send (store : Store) (now : Instant) (channel : String) (message : Message) :
    Except ChannelError Unit × Store :=
  match store.push now channel message with
  | (.ok (), store) => (.ok (), store.announce)
  | (.error error, store) => (.error error, store)

/-- The first live message of a queue, and the queue behind it. -/
def firstLive (now : Instant) : List Queued → Option Message × List Queued
  | [] => (none, [])
  | queued :: rest => if queued.live now then (some queued.message, rest) else firstLive now rest

/-- Puts back what is left of a queue; an empty one is removed. -/
def putBack (store : Store) (channel : String) (queue : List Queued) : Store :=
  { store with
    queues :=
      if queue.isEmpty then store.queues.erase channel else store.queues.insert channel queue }

/-- Takes the first live message of the first channel, in the given order, that has one. -/
def take (store : Store) (now : Instant) : List String → Option (String × Message) × Store
  | [] => (none, store)
  | channel :: rest =>
      match store.queues.find? channel with
      | none => store.take now rest
      | some queue =>
          match firstLive now queue with
          | (some message, left) => (some (channel, message), store.putBack channel left)
          | (none, left) => (store.putBack channel left).take now rest

def flush (store : Store) : Store := { store with queues := [], groups := [] }

/-- The members of a group, each with the moment at which its membership ends. -/
def group (store : Store) (group : String) : Dict Instant :=
  (store.groups.find? group).getD .empty

/-- Puts back the members of a group; a group without members is removed. -/
def putGroup (store : Store) (group : String) (members : Dict Instant) : Store :=
  { store with
    groups :=
      if members.isEmpty then store.groups.erase group else store.groups.insert group members }

/-- Adds a channel to a group, or prolongs its membership. -/
def join (store : Store) (now : Instant) (group channel : String) : Store :=
  store.putGroup group ((store.group group).insert channel (now + store.settings.groupExpiry))

def leave (store : Store) (group channel : String) : Store :=
  store.putGroup group ((store.group group).erase channel)

/-- The channels of a group, in order, whose membership has not ended. -/
def members (store : Store) (now : Instant) (group : String) : List String × Store :=
  let members := (store.group group).filter fun _ endsAt => now < endsAt
  (members.keys, store.putGroup group members)

end Store

end Courier
