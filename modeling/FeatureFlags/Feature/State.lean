import FeatureFlags.Json.Basic
import FeatureFlags.Uuid

/-!
# Features

The state of a feature as a server delivers it: its value, its version, and the strategies that
replace the value for some contexts.
-/

set_option autoImplicit false

namespace FeatureFlags

/-- The type of the value of a feature. -/
inductive ValueType where
  /-- A flag. -/
  | boolean
  /-- A text. -/
  | string
  /-- A number. -/
  | number
  /-- A JSON document, as text. -/
  | json
deriving DecidableEq, Repr

/-- How a condition compares a supplied value with its own values. -/
inductive Conditional where
  /-- Equal to one of the values. -/
  | equals
  /-- Equal to none of the values. -/
  | notEquals
  /-- Ends with one of the values. -/
  | endsWith
  /-- Starts with one of the values. -/
  | startsWith
  /-- Greater than one of the values. -/
  | greater
  /-- At least one of the values. -/
  | greaterEquals
  /-- Less than one of the values. -/
  | less
  /-- At most one of the values. -/
  | lessEquals
  /-- Contains one of the values. -/
  | includes
  /-- Contains none of the values. -/
  | excludes
  /-- Has a match of one of the values as patterns. -/
  | regex
  /-- A comparison that is not known here, and that never holds. -/
  | unknown
deriving DecidableEq, Repr

/-- The type of the values that a condition compares. -/
inductive FieldType where
  /-- Texts. -/
  | string
  /-- Semantic versions. -/
  | semanticVersion
  /-- Numbers. -/
  | number
  /-- Calendar dates. -/
  | date
  /-- Points in time. -/
  | datetime
  /-- Truth values. -/
  | boolean
  /-- Addresses and networks. -/
  | ipAddress
  /-- A type that is not known here, whose conditions never hold. -/
  | unknown
deriving DecidableEq, Repr

/-- A condition on one attribute of a context. -/
structure Condition where
  /-- The comparison. -/
  conditional : Conditional
  /-- The name of the attribute. -/
  fieldName : String
  /-- The values to compare with. -/
  values : List Json
  /-- The type of the values. -/
  fieldType : FieldType
deriving Repr

/-- A rule that gives a feature another value for some contexts. -/
structure Strategy where
  /-- A name for the rule. -/
  id : Option String
  /-- The share of the contexts it applies to, in millionths. -/
  percentage : Option UInt32
  /-- The attributes that decide which contexts belong to the share. -/
  percentageAttributes : List String
  /-- The value it gives. -/
  value : Option Json
  /-- The conditions that all have to hold. -/
  conditions : List Condition
deriving Repr

/-- The share of a strategy; none is no share. -/
def Strategy.share (s : Strategy) : UInt32 := s.percentage.getD 0

/-- The state of one feature as a server delivers it. -/
structure FeatureState where
  /-- The identity of the feature, which a change of its key does not change. -/
  id : Uuid
  /-- The name by which the feature is looked up. -/
  key : String
  /-- The version of the state. -/
  version : Option Int
  /-- The type of the value. -/
  valueType : Option ValueType
  /-- The value for contexts that no strategy applies to. -/
  value : Option Json
  /-- Whether the value may not be overridden without permission. -/
  locked : Bool
  /-- The strategies, first match first. -/
  strategies : List Strategy
  /-- The environment that the feature was delivered for. -/
  environmentId : Option Uuid
deriving Repr

namespace FeatureState

/-- The version by which states are compared: a state without one counts as `-1`. -/
def effectiveVersion (s : FeatureState) : Int := s.version.getD (-1)

/-- Whether the feature exists on the server. -/
def doesExist (s : FeatureState) : Bool := s.effectiveVersion != -1

end FeatureState

end FeatureFlags
