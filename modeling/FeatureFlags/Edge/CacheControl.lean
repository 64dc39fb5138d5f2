import FeatureFlags.Edge.RetrySettings
import FeatureFlags.Text.Search

/-!
# Cache control

How long an answer may be kept, as far as its header says so.
-/

set_option autoImplicit false

namespace FeatureFlags.Edge

open Text

/-- The number of seconds in one directive of the header. -/
def maxAgeOfDirective? (directive : List Char) : Option Nat :=
  (dropStart? "max-age=".toList (trim directive)).bind fun seconds => natural64? (trim seconds)

/-- The time that the first readable directive `max-age` of the header gives, unless it is
zero. -/
def maxAge? (header : String) : Option Duration :=
  match (header.toList.splitOn ',').findSome? maxAgeOfDirective? with
  | some n => if 0 < n then some (.ofSeconds n) else none
  | none => none

end FeatureFlags.Edge
