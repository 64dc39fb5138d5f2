import FeatureFlags.Repository.Basic
import FeatureFlags.Rollout

/-!
# Resolving values

The value of a feature for a context: an override comes first, then the strategies, if there is a
context to try them with, then the value of the feature itself. A feature of another type than
expected has no value.
-/

set_option autoImplicit false

namespace FeatureFlags.Repository

/-- The value of a state for a context. -/
def stateValue (now : Rollout.Moment) (s : FeatureState) (context : Option Attributes) :
    Option Json :=
  match context with
  | none => s.value
  | some a =>
    let outcome := Rollout.apply (.shared now) s.strategies s.id.text a
    if outcome.isMatched then outcome.value else s.value

/-- The value that is delivered for an entry. -/
def deliveredValue (now : Rollout.Moment) (e : Entry) (expected : Option ValueType)
    (context : Option Attributes) : Option Json := do
  let s ← e.state
  let t ← s.valueType
  if expected.all (· = t) then stateValue now s context else none

/-- The value of an entry for a context. -/
def resolve (r : Repository) (vars : Variables) (now : Rollout.Moment) (e : Entry)
    (expected : Option ValueType) (context : Option Attributes) : Option Json :=
  match Interceptor.find? r.interceptors vars e.isLocked e.key with
  | some v => some v
  | none => deliveredValue now e expected context

end FeatureFlags.Repository
