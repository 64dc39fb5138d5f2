import FeatureFlags.Context.Attributes
import FeatureFlags.Hash.Murmur3
import FeatureFlags.Matching

/-!
# Rollouts

Which strategy of a feature applies to a context. Strategies are tried in order. A strategy with
a share applies to the contexts whose bucket lies in its slice of the million buckets. Strategies
with a share and without conditions that bucket by the same identity take consecutive slices; a
strategy with conditions has a slice of its own that starts at zero.

Buckets and the clock are parameters. The walk also says for which identities it asked for
buckets: once for each, at its first use.
-/

set_option autoImplicit false

namespace FeatureFlags.Rollout

/-- The number of buckets. -/
def bucketCount : UInt32 := 1000000

/-- The bucket of an identity for a feature, by the hash that is shared with servers. -/
def bucket (identity featureId : String) : UInt32 :=
  let h := Murmur3.hash 0 (Text.octets (identity ++ featureId))
  UInt32.ofNat (bucketCount.toNat * h.toNat / Nat.pow 2 32)

/-- The sum of two shares; it stops at the greatest number of 32 bits. -/
def addShares (a b : UInt32) : UInt32 := UInt32.ofNat (min (a.toNat + b.toNat) (Nat.pow 2 32 - 1))

/-- A moment, in the forms in which conditions can ask for it. -/
structure Moment where
  /-- The date, as year, month and day. -/
  date : String
  /-- The date and the time to the second, in coordinated universal time. -/
  time : String
deriving Repr

/-- The form of a moment that conditions of a type compare with. -/
def Moment.text (now : Moment) : FieldType → String
  | .date => now.date
  | _ => now.time

/-- The name of the field that stands for the current moment, in any case. -/
def nowField : String := "now"

/-- What stands for an attribute of an identity that a context does not have. -/
def noValue : String := "<none>"

/-- The values that a context supplies for a condition. -/
def supplied (now : Moment) (context : Attributes) (c : Condition) : List String :=
  if Text.sameLetters c.fieldName nowField then [now.text c.fieldType]
  else (context.getAll c.fieldName).getD []

/-- Whether a context satisfies a condition: with one of the values it supplies, or by supplying
nothing where nothing is required. -/
def conditionHolds (now : Moment) (context : Attributes) (c : Condition) : Bool :=
  let values := supplied now context c
  if values.isEmpty || c.values.isEmpty then values.isEmpty && c.values.isEmpty
  else values.any c.isSatisfiedBy

/-- Whether a context satisfies all conditions of a strategy. -/
def conditionsHold (now : Moment) (context : Attributes) (s : Strategy) : Bool :=
  s.conditions.all (conditionHolds now context)

/-- The identity by which a strategy buckets a context: the attributes it names, or else the
identity of the context. -/
def identity (context : Attributes) (s : Strategy) : String :=
  if s.percentageAttributes.isEmpty then context.identity.getD ""
  else "$".intercalate (s.percentageAttributes.map fun name => (context.get name).getD noValue)

/-- An identity that was bucketed: its bucket, and the sum of the slices that were taken. -/
structure Taken where
  /-- The bucket. -/
  bucket : UInt32
  /-- The end of the last slice. -/
  share : UInt32
deriving Repr

/-- Whether a bucket lies in the slice of a share that starts at a given bucket. -/
def inSlice (start share bucket : UInt32) : Bool :=
  start ≤ bucket && bucket < addShares start share

/-- A strategy that applies. -/
structure Choice where
  /-- Its place among the strategies, from zero. -/
  index : Nat
  /-- The strategy. -/
  strategy : Strategy
deriving Repr

/-- What came of trying strategies. -/
structure Outcome where
  /-- The strategy that applies, if any. -/
  choice : Option Choice
  /-- The identities whose buckets were asked for, in order. -/
  asked : List String
deriving Repr

/-- Whether a strategy applies. -/
def Outcome.isMatched (o : Outcome) : Bool := o.choice.isSome

/-- The value that the strategy gives. -/
def Outcome.value (o : Outcome) : Option Json := o.choice.bind fun c => c.strategy.value

/-- What rollouts depend on, apart from strategies and contexts. -/
structure Setting where
  /-- The bucket of an identity for a feature. -/
  bucket : String → String → UInt32
  /-- The current moment. -/
  now : Moment

/-- The setting with the shared buckets. -/
def Setting.shared (now : Moment) : Setting := ⟨Rollout.bucket, now⟩

/-- Tries strategies, the first of which has the place `index`, with the slices that were taken
before. -/
def walk (setting : Setting) (featureId : String) (context : Attributes) :
    Nat → Table String Taken → List Strategy → Outcome
  | _, _, [] => ⟨none, []⟩
  | index, taken, s :: rest =>
    if s.share = 0 then
      if !s.conditions.isEmpty && conditionsHold setting.now context s then
        ⟨some ⟨index, s⟩, []⟩
      else walk setting featureId context (index + 1) taken rest
    else
      let key := identity context s
      let (known, asked) :=
        match taken.get? key with
        | some t => (t, [])
        | none => (⟨setting.bucket key featureId, 0⟩, [key])
      let start := if s.conditions.isEmpty then known.share else 0
      if inSlice start s.share known.bucket && conditionsHold setting.now context s then
        ⟨some ⟨index, s⟩, asked⟩
      else
        let share := if s.conditions.isEmpty then addShares known.share s.share else known.share
        let later :=
          walk setting featureId context (index + 1) (taken.insert key ⟨known.bucket, share⟩) rest
        ⟨later.choice, asked ++ later.asked⟩

/-- Tries the strategies of a feature for a context. -/
def apply (setting : Setting) (strategies : List Strategy) (featureId : String)
    (context : Attributes) : Outcome :=
  walk setting featureId context 0 .empty strategies

end FeatureFlags.Rollout
