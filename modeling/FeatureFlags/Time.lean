import FeatureFlags.Json.Decode

/-!
# Durations and instants

A duration has at most 64 bits of seconds. An instant counts from the start of its clock, and a
sum that the clock cannot represent is no instant.
-/

set_option autoImplicit false

namespace FeatureFlags

/-- A length of time. -/
structure Duration where
  /-- The length in nanoseconds. -/
  nanoseconds : Nat
deriving DecidableEq, Repr, Inhabited

namespace Duration

/-- The nanoseconds of one second. -/
def nanosPerSecond : Nat := Nat.pow 10 9

/-- The nanoseconds of one millisecond. -/
def nanosPerMilli : Nat := Nat.pow 10 6

/-- The greatest number of whole seconds. -/
def maxSeconds : Nat := Nat.pow 2 64 - 1

/-- The greatest duration. -/
def greatest : Duration := ⟨maxSeconds * nanosPerSecond + (nanosPerSecond - 1)⟩

/-- No time. -/
def zero : Duration := ⟨0⟩

/-- A number of seconds. -/
def ofSeconds (n : Nat) : Duration := ⟨n * nanosPerSecond⟩

/-- A number of milliseconds. -/
def ofMillis (n : Nat) : Duration := ⟨n * nanosPerMilli⟩

/-- The whole milliseconds. -/
def millis (d : Duration) : Nat := d.nanoseconds / nanosPerMilli

/-- Whether it is no time. -/
def isZero (d : Duration) : Bool := d.nanoseconds == 0

/-- The shorter of two durations. -/
def shorter (d e : Duration) : Duration := ⟨min d.nanoseconds e.nanoseconds⟩

/-- The sum of two durations, or the greatest duration. -/
def add (d e : Duration) : Duration :=
  ⟨min (d.nanoseconds + e.nanoseconds) greatest.nanoseconds⟩

/-- The value of a duration. -/
def toJson (d : Duration) : Json :=
  .ofMembers
    [("secs", .nat (d.nanoseconds / nanosPerSecond)),
      ("nanos", .nat (d.nanoseconds % nanosPerSecond))]

/-- Reads a duration: seconds and nanoseconds, of which there may be more than one second. No
other field is allowed. -/
def decode : Json.Decoder Duration := fun room d => do
  let (inner, fields) ← Json.Fields.readOnly ["secs", "nanos"] room d
  let secs ← fields.required inner "secs" (.natUpTo (Nat.pow 2 64 - 1))
  let nanos ← fields.required inner "nanos" (.natUpTo (Nat.pow 2 32 - 1))
  if secs + nanos / nanosPerSecond ≤ maxSeconds then some ⟨secs * nanosPerSecond + nanos⟩ else none

end Duration

/-- A point in time. -/
structure Instant where
  /-- The nanoseconds since the start of the clock. -/
  nanoseconds : Nat
deriving DecidableEq, Repr, Inhabited

namespace Instant

/-- The seconds that the clock can count. -/
def maxSeconds : Nat := Nat.pow 2 63 - 1

/-- The instant after some time, if the clock gets there. -/
def after? (t : Instant) (d : Duration) : Option Instant :=
  let n := t.nanoseconds + d.nanoseconds
  if n / Duration.nanosPerSecond ≤ maxSeconds then some ⟨n⟩ else none

/-- The instant after some time, whether the clock gets there or not. -/
def after (t : Instant) (d : Duration) : Instant := ⟨t.nanoseconds + d.nanoseconds⟩

/-- Whether an instant has come. -/
def hasCome (due now : Instant) : Bool := due.nanoseconds ≤ now.nanoseconds

/-- The later of two instants. -/
def later (t u : Instant) : Instant := ⟨max t.nanoseconds u.nanoseconds⟩

end Instant

end FeatureFlags
