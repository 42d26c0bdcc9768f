import Courier.Store.Basic

/-!
# Receiving

A receiver looks for a message and, if it may block, waits until an announcement or its deadline and
looks again. It remembers how many announcements it had heard when it last looked, so that none is
lost between looking and waiting.
-/

namespace Courier

/-- A receiver that waits: for which channels, until when, and how many announcements it had heard
when it last looked. -/
structure Waiting where
  channels : List String
  deadline : Instant
  heard : Nat
  deriving DecidableEq, Repr

/-- How far a receiver has come. -/
inductive Receipt where
  | received (channel : String) (message : Message)
  | nothing
  | waiting (waiting : Waiting)

namespace Store

def receiptOf : Option (String × Message) → Receipt
  | none => .nothing
  | some (channel, message) => .received channel message

def lastLook (store : Store) (now : Instant) (channels : List String) : Receipt × Store :=
  let (found, store) := store.take now channels
  (receiptOf found, store)

/-- Starts to receive from channels. A receiver that may block waits where it finds nothing. -/
def receive (store : Store) (now : Instant) (channels : List String) (block : Bool) :
    Receipt × Store :=
  if channels.isEmpty then (.nothing, store)
  else
    match store.take now channels with
    | (some (channel, message), store) => (.received channel message, store)
    | (none, store) =>
        if block then
          let deadline := now + store.settings.receiveTimeout
          (.waiting ⟨channels, deadline, store.announcements⟩, store)
        else (.nothing, store)

/-- Goes on receiving: a receiver that has heard an announcement looks again, and at its deadline
it looks a last time. -/
def resume (store : Store) (now : Instant) (waiting : Waiting) : Receipt × Store :=
  if waiting.heard = store.announcements then
    if waiting.deadline ≤ now then store.lastLook now waiting.channels
    else (.waiting waiting, store)
  else
    match store.take now waiting.channels with
    | (some (channel, message), store) => (.received channel message, store)
    | (none, store) =>
        if waiting.deadline ≤ now then (.nothing, store)
        else (.waiting { waiting with heard := store.announcements }, store)

end Store

end Courier
