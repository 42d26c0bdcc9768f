/-!
# Time

Durations and moments as whole nanoseconds, moments counted from the start of a run. The longest
duration bounds the arithmetic on durations: a product that would pass it stops there. Moments have
no end, so a sum of a moment and a duration is always one. What calls come to on a clock that cannot
show every sum is said in `Courier.Clock`.
-/

namespace Courier

abbrev Duration := Nat

/-- A moment, in nanoseconds since the start of a run. There is no last one. -/
abbrev Instant := Nat

namespace Duration

def nanosPerSecond : Nat := 1000000000

def nanosPerMilli : Nat := 1000000

/-- The longest duration: `2 ^ 64` seconds less a nanosecond. -/
def longest : Duration := Nat.pow 2 64 * nanosPerSecond - 1

def ofSeconds (count : Nat) : Duration := count * nanosPerSecond

def ofMillis (count : Nat) : Duration := count * nanosPerMilli

def wholeSeconds (duration : Duration) : Nat := duration / nanosPerSecond

/-- The nanoseconds of a duration beyond its whole seconds. -/
def subsecondNanos (duration : Duration) : Nat := duration % nanosPerSecond

def wholeMillis (duration : Duration) : Nat := duration / nanosPerMilli

/-- A multiple of a duration, at most the longest one. -/
def saturatingMul (duration : Duration) (factor : Nat) : Duration :=
  min (duration * factor) longest

end Duration

end Courier
