import FeatureFlags.Edge.RetrySettings
import FeatureFlags.Feature.Wire
import FeatureFlags.Json.Reader

/-!
# Reconnecting

What happens after an attempt to connect: nothing, another attempt after a delay, or no further
attempts at all. Delays grow with every failure by a multiplier that a success resets. Each delay
is lengthened by chance; the chance is a parameter, a fraction below one.
-/

set_option autoImplicit false

namespace FeatureFlags.Edge

/-- How an attempt to connect ended. -/
inductive Outcome where
  /-- Features arrived. -/
  | success
  /-- The server said goodbye and closed the connection. -/
  | serverSaidBye
  /-- The connection was lost. -/
  | serverWasDisconnected
  /-- The server was silent for too long. -/
  | serverReadTimeout
  /-- There was no connection. -/
  | connectionFailure
  /-- The server does not know the key. -/
  | apiKeyNotFound
  /-- The server will not serve this client. -/
  | failure
deriving DecidableEq, Repr

/-- The names of the outcomes. -/
def Outcome.names : List (String × Outcome) :=
  [("SUCCESS", .success), ("SERVER_SAID_BYE", .serverSaidBye),
    ("SERVER_WAS_DISCONNECTED", .serverWasDisconnected),
    ("SERVER_READ_TIMEOUT", .serverReadTimeout), ("CONNECTION_FAILURE", .connectionFailure),
    ("API_KEY_NOT_FOUND", .apiKeyNotFound), ("FAILURE", .failure)]

/-- The name of an outcome. -/
def Outcome.name (o : Outcome) : String := nameOf Outcome.names o

/-- Reads an outcome. -/
def Outcome.decode : Json.Decoder Outcome := .oneOf Outcome.names

/-- A fraction that is at least zero and less than one. -/
structure Chance where
  /-- The numerator. -/
  num : Nat
  /-- The denominator. -/
  den : Nat
  /-- The fraction is less than one. -/
  num_lt_den : num < den

/-- One half. -/
def Chance.half : Chance := ⟨1, 2, by decide⟩

/-- A number of milliseconds times one plus a chance, in whole milliseconds of at most 64 bits. -/
def lengthen (chance : Chance) (n : Nat) : Nat :=
  min ((chance.den + chance.num) * n / chance.den) (Nat.pow 2 64 - 1)

/-- The multiplier of the next delay. It is at least three. -/
def nextMultiplier (chance : Chance) (current : Nat) : Nat := max (lengthen chance current) 3

/-- A delay: a base and the lengthened multiplier, but not more than the longest delay. -/
def delay (settings : RetrySettings) (chance : Chance) (base : Duration) (multiplier : Nat) :
    Duration :=
  (base.add (.ofMillis (lengthen chance multiplier))).shorter settings.maximumDelay

/-- A wait for a further attempt. -/
structure Wait (ρ : Type) where
  /-- When the attempt is made. -/
  due : Instant
  /-- What makes the attempt. -/
  reconnector : ρ
deriving Repr

/-- Decides on further attempts to connect. -/
structure Retryer (ρ : Type) where
  /-- The settings. -/
  settings : RetrySettings
  /-- The multiplier of the next growing delay. -/
  multiplier : Nat
  /-- Whether the server does not know the key. -/
  isNotFound : Bool
  /-- Whether no further attempts are made. -/
  isStopped : Bool
  /-- Whether waiting was given up. -/
  isClosed : Bool
  /-- The attempts that are still to be made. -/
  waits : List (Wait ρ)
deriving Repr

namespace Retryer

variable {ρ : Type}

/-- A retryer before any attempt. -/
def new (settings : RetrySettings) : Retryer ρ where
  settings := settings
  multiplier := settings.multiplier
  isNotFound := false
  isStopped := false
  isClosed := false
  waits := []

/-- Whether outcomes are ignored. -/
def isDeaf (r : Retryer ρ) : Bool := r.isNotFound || r.isStopped || r.isClosed

/-- Waits for some time and then makes an attempt. -/
def reconnectAfter (r : Retryer ρ) (now : Instant) (d : Duration) (reconnector : ρ) : Retryer ρ :=
  { r with waits := r.waits ++ [⟨now.after d, reconnector⟩] }

/-- Waits for a growing time, which is longer after the next failure. -/
def backOff (r : Retryer ρ) (now : Instant) (chances : Chance × Chance) (base : Duration)
    (reconnector : ρ) : Retryer ρ :=
  let d := delay r.settings chances.1 base r.multiplier
  { r with multiplier := nextMultiplier chances.2 r.multiplier }.reconnectAfter now d reconnector

/-- Acts on the outcome of an attempt. The chances are for the delay and for the multiplier. -/
def report (r : Retryer ρ) (now : Instant) (chances : Chance × Chance) (outcome : Outcome)
    (reconnector : ρ) : Retryer ρ :=
  if r.isDeaf then r
  else
    match outcome with
    | .success => { r with multiplier := r.settings.multiplier }
    | .apiKeyNotFound => { r with isNotFound := true, isStopped := true }
    | .failure => { r with isStopped := true }
    | .serverSaidBye => r.reconnectAfter now r.settings.goodbyeDelay reconnector
    | .serverWasDisconnected => r.backOff now chances r.settings.disconnectDelay reconnector
    | .serverReadTimeout => r.backOff now chances r.settings.streamReadTimeout reconnector
    | .connectionFailure => r.backOff now chances r.settings.connectTimeout reconnector

/-- The member of a configuration that says that a connection is of no use any more. -/
def staleKey : String := "edge.stale"

/-- Acts on the text of a configuration. -/
def configure (r : Retryer ρ) (data : String) : Retryer ρ :=
  match Json.ofText? data with
  | some v => if (v.member? staleKey).isSome then { r with isStopped := true } else r
  | none => r

/-- The first of the waits that are due, and the retryer without it. -/
def takeDue? (r : Retryer ρ) (now : Instant) : Option (ρ × Retryer ρ) :=
  match r.waits.find? fun w => w.due.hasCome now with
  | none => none
  | some w =>
    some (w.reconnector, { r with waits := r.waits.eraseP fun w => w.due.hasCome now })

/-- Gives up waiting. -/
def close (r : Retryer ρ) : Retryer ρ := { r with isClosed := true, waits := [] }

end Retryer

end FeatureFlags.Edge
