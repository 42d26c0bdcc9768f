import Courier.Settings.Reading

/-!
# Settings of stores

How many messages a channel may hold, how long messages and group members live, and how long a
receiver waits. A capacity of zero stands for no limit.
-/

namespace Courier

/-- The settings of a store in memory. -/
structure StoreSettings where
  capacity : Nat := 100
  messageExpiry : Duration := Duration.ofSeconds 60
  groupExpiry : Duration := Duration.ofSeconds 86400
  receiveTimeout : Duration := Duration.ofSeconds 1
  deriving DecidableEq, Repr, Inhabited

namespace StoreSettings

def ofPreset : Preset → StoreSettings
  | .standard | .production => {}
  | .development => { capacity := 1000, receiveTimeout := Duration.ofMillis 500 }
  | .testing =>
      { capacity := 0, messageExpiry := Duration.ofSeconds 10, groupExpiry := Duration.ofSeconds 10,
        receiveTimeout := Duration.ofMillis 50 }

def fields (settings : StoreSettings) : List (String × Json) :=
  [("capacity", .natural settings.capacity),
    ("message_expiry", Settings.durationJson settings.messageExpiry),
    ("group_expiry", Settings.durationJson settings.groupExpiry),
    ("receive_timeout", Settings.durationJson settings.receiveTimeout)]

/-- The declared fields. -/
def declared : List Payload.Declared :=
  [Payload.declare "capacity" Settings.size, Payload.declare "message_expiry" Settings.duration,
    Payload.declare "group_expiry" Settings.duration,
    Payload.declare "receive_timeout" Settings.duration]

def ofFields (fields : List (String × Json)) : Except DecodeError StoreSettings := do
  let capacity ← Payload.required fields "capacity" Settings.size
  let messageExpiry ← Payload.required fields "message_expiry" Settings.duration
  let groupExpiry ← Payload.required fields "group_expiry" Settings.duration
  let receiveTimeout ← Payload.required fields "receive_timeout" Settings.duration
  return { capacity, messageExpiry, groupExpiry, receiveTimeout }

def reader : Reader StoreSettings := fun value => do
  ofFields (← Payload.fieldsOf "struct MemoryConfig" "struct MemoryConfig with 4 elements" declared
    value)

end StoreSettings

/-- The settings of a store in a Redis server: where it is, what its keys begin with, and the
settings that it shares with a store in memory. -/
structure RedisSettings where
  url : String := "redis://localhost:6379"
  keyBase : String := "switchyard"
  store : StoreSettings := {}
  deriving DecidableEq, Repr, Inhabited

namespace RedisSettings

def ofPreset : Preset → RedisSettings
  | .standard => {}
  | .development => { keyBase := "switchyard_dev" }
  | .production =>
      { keyBase := "switchyard_prod", store := { receiveTimeout := Duration.ofSeconds 2 } }
  | .testing =>
      { keyBase := "switchyard_test", store := { messageExpiry := Duration.ofSeconds 5 } }

def fields (settings : RedisSettings) : List (String × Json) :=
  [("url", .text settings.url), ("key_prefix", .text settings.keyBase)] ++ settings.store.fields

/-- The declared fields. -/
def declared : List Payload.Declared :=
  [Payload.declare "url" .text, Payload.declare "key_prefix" .text] ++ StoreSettings.declared

def reader : Reader RedisSettings := fun value => do
  let fields ←
    Payload.fieldsOf "struct RedisConfig" "struct RedisConfig with 6 elements" declared value
  let url ← Payload.required fields "url" .text
  let keyBase ← Payload.required fields "key_prefix" .text
  let store ← StoreSettings.ofFields fields
  return { url, keyBase, store }

end RedisSettings

end Courier
