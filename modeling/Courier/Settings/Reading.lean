import Courier.Payload.Reader
import Courier.Time

/-!
# Reading and writing settings

Settings are records with all fields required. A duration is a record of whole seconds and the
nanoseconds beyond them, and has no other fields.
-/

namespace Courier

/-- A choice of settings for one kind of use. -/
inductive Preset where
  | standard
  | development
  | production
  | testing
  deriving DecidableEq, Repr

namespace Settings

def size : Reader Nat := .below (Nat.pow 2 64) "usize"

def count : Reader Nat := .below (Nat.pow 2 32) "u32"

def seconds : Reader Nat := .below (Nat.pow 2 64) "u64"

def durationFields : List Payload.Declared :=
  [Payload.declare "secs" seconds, Payload.declare "nanos" count]

/-- Checks the fields of a duration in the order in which they are held; no others are allowed. -/
def checkDuration : List (String × Json) → Except DecodeError Unit
  | [] => .ok ()
  | (name, value) :: rest =>
      if name = "secs" ∨ name = "nanos" then
        match Payload.fits durationFields name value with
        | .error error => .error error
        | .ok () => checkDuration rest
      else .error (.unknownField name ["secs", "nanos"])

/-- The fields of a duration, which may also be given as an array. -/
def durationParts : Reader (List (String × Json))
  | .object fields => (checkDuration fields).map fun () => fields
  | .array items => Payload.ofItems "struct Duration" durationFields 0 items
  | value => .error (.invalidType value "struct Duration")

/-- A duration. Nanoseconds beyond a second carry over. -/
def duration : Reader Duration := fun value => do
  let fields ← durationParts value
  let secs ← Payload.required fields "secs" seconds
  let nanos ← Payload.required fields "nanos" count
  let total := Duration.ofSeconds secs + nanos
  if total ≤ Duration.longest then return total
  else throw (.invalidContent "overflow deserializing Duration")

def durationJson (duration : Duration) : Json :=
  .object
    [("secs", .natural duration.wholeSeconds), ("nanos", .natural duration.subsecondNanos)]

end Settings

end Courier
