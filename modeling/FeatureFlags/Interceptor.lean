import FeatureFlags.Json.Reader
import FeatureFlags.Text.Ascii

/-!
# Interceptors

Local overrides of feature values, which are asked in the order of their registration. A locked
feature is overridden only by those that are allowed to.

One interceptor reads environment variables. A feature's variable is named for the key, in upper
case and with an underscore for everything but letters and digits.
-/

set_option autoImplicit false

namespace FeatureFlags

/-- The environment variables that are set. -/
abbrev Variables := Table String String

/-- A source of values that override features. -/
structure Interceptor where
  /-- Whether it may override locked features. -/
  allowLockOverride : Bool
  /-- The value for a key, with the environment variables as they are. -/
  value? : Variables → String → Option Json

namespace Interceptor

/-- What the names of override variables start with. -/
def variableStart : String := "FEATUREHUB_OVERRIDE_"

/-- The variable that overrides the feature with a key. -/
def variableName (key : String) : String :=
  variableStart ++
    String.ofList (key.toList.map fun c => if c.isAlphanum then c.toUpper else '_')

/-- The value that the text of a variable denotes: a JSON value, or else the text itself. -/
def variableValue (text : String) : Json := (Json.ofText? text).getD (.string text)

/-- The value that a variable has for a key. -/
def environmentValue? (vars : Variables) (key : String) : Option Json :=
  (vars.get? (variableName key)).map variableValue

/-- Overrides features by environment variables. -/
def environment (allowLockOverride : Bool) : Interceptor := ⟨allowLockOverride, environmentValue?⟩

/-- Overrides the features that a list of values names. A `null` overrides too. -/
def ofValues (allowLockOverride : Bool) (values : List (String × Json)) : Interceptor :=
  ⟨allowLockOverride, fun _ key => Table.find? key values⟩

/-- Whether it may override a feature that is locked or not. -/
def mayOverride (i : Interceptor) (locked : Bool) : Bool := !locked || i.allowLockOverride

/-- The first value that one of the interceptors has for a key and may override it with. -/
def find? (interceptors : List Interceptor) (vars : Variables) (locked : Bool) (key : String) :
    Option Json :=
  (interceptors.filter (mayOverride · locked)).findSome? fun i => i.value? vars key

end Interceptor

end FeatureFlags
