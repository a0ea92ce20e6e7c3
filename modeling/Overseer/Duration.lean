/-!
# Durations and instants

A duration is a whole number of nanoseconds, less than 2^64 seconds.  It is
written with the largest unit of which it holds at least one.

An instant counts the nanoseconds since the clock was started.  The clock holds
fewer than 2^63 seconds, so adding a duration to an instant can fail.
-/

namespace Overseer

def nanosPerSecond : Nat := 1_000_000_000

/-- The nanoseconds of a millisecond. -/
def nanosPerMilli : Nat := 1_000_000

/-- The nanoseconds of a microsecond. -/
def nanosPerMicro : Nat := 1_000

/-- A span of time below 2^64 seconds. -/
structure Duration where
  nanos : Nat
  bounded : nanos < UInt64.size * nanosPerSecond := by decide
  deriving DecidableEq

namespace Duration

/-- A duration of that many nanoseconds, if it is within bounds. -/
def ofNanos? (nanos : Nat) : Option Duration :=
  if bounded : nanos < UInt64.size * nanosPerSecond then some ⟨nanos, bounded⟩ else none

def ofSeconds (seconds : UInt64) : Duration :=
  { nanos := seconds.toNat * nanosPerSecond
    bounded := Nat.mul_lt_mul_of_pos_right seconds.toNat_lt (by decide) }

/-- A duration of whole milliseconds. -/
def ofMillis (millis : UInt64) : Duration :=
  { nanos := millis.toNat * nanosPerMilli
    bounded := Nat.mul_lt_mul_of_lt_of_le millis.toNat_lt (by decide) (by decide) }

def zero : Duration := { nanos := 0 }

def seconds (duration : Duration) : Nat := duration.nanos / nanosPerSecond

/-- The nanoseconds beyond the whole seconds. -/
def subsecond (duration : Duration) : Nat := duration.nanos % nanosPerSecond

/-- The sum of two durations, unless it is out of bounds. -/
def add? (first second : Duration) : Option Duration :=
  ofNanos? (first.nanos + second.nanos)

/-- Twice a duration, unless it is out of bounds. -/
def double? (duration : Duration) : Option Duration :=
  ofNanos? (2 * duration.nanos)

/-- The digits of a fraction with `places` places, without trailing zeros. -/
def fractionDigits (places fraction : Nat) : List Char :=
  let digits := Nat.toDigits 10 fraction
  let padded := List.replicate (places - digits.length) '0' ++ digits
  (padded.reverse.dropWhile (· == '0')).reverse

def decimal (unit places nanos : Nat) : String :=
  let fraction := fractionDigits places (nanos % unit)
  toString (nanos / unit) ++
    (if fraction.isEmpty then "" else String.ofList ('.' :: fraction))

/-- A duration in its largest unit. -/
def text (duration : Duration) : String :=
  if nanosPerSecond ≤ duration.nanos then
    decimal nanosPerSecond 9 duration.nanos ++ "s"
  else if nanosPerMilli ≤ duration.nanos then
    decimal nanosPerMilli 6 duration.nanos ++ "ms"
  else if nanosPerMicro ≤ duration.nanos then
    decimal nanosPerMicro 3 duration.nanos ++ "µs"
  else toString duration.nanos ++ "ns"

end Duration

/-- The nanoseconds since the clock was started. -/
abbrev Instant := Nat

namespace Instant

/-- The first instant that the clock does not hold. -/
def limit : Nat := UInt64.size / 2 * nanosPerSecond

/-- The instant after a duration, unless the clock does not hold it. -/
def after? (now : Instant) (duration : Duration) : Option Instant :=
  if now + duration.nanos < limit then some (now + duration.nanos) else none

end Instant

end Overseer
