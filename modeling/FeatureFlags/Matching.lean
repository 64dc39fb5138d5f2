import FeatureFlags.Feature.State
import FeatureFlags.IpNetwork
import FeatureFlags.Json.Printer
import FeatureFlags.Number.Decimal
import FeatureFlags.Pattern.Search
import FeatureFlags.Text.Search
import FeatureFlags.Version

/-!
# Matching conditions

Whether a value that a context supplies satisfies a condition. The type of the condition says how
the texts are read: as texts, numbers, versions, truth values or networks. A value of a condition
that cannot be read is left out; a supplied value that cannot be read satisfies nothing.
-/

set_option autoImplicit false

namespace FeatureFlags

open Text

/-- The text of a condition's value: strings stand for themselves, other values for their JSON
text, and `null` for nothing. -/
def Json.conditionText? : Json → Option String
  | .null => none
  | .string s => some s
  | v => some v.compress

namespace Conditional

/-- Which results of a comparison with one value count, for the conditionals that compare. -/
def accepts? : Conditional → Option (Ordering → Bool)
  | .equals => some (· == .eq)
  | .notEquals => some (· == .eq)
  | .greater => some (· == .gt)
  | .greaterEquals => some (· != .lt)
  | .less => some (· == .lt)
  | .lessEquals => some (· != .gt)
  | _ => none

/-- Applies a conditional that compares, given the order of the supplied value to each of the
values. One value is enough, except that `notEquals` denies `equals`. -/
def compared? {α : Type} (c : Conditional) (order : α → Ordering) (values : List α) :
    Option Bool :=
  (accepts? c).map fun accepts =>
    let found := values.any fun v => accepts (order v)
    if c = .notEquals then !found else found

/-- Applies a conditional that searches texts. One value is enough, except that `excludes` denies
`includes`. -/
def searched? (c : Conditional) (supplied : String) (values : List String) : Option Bool :=
  match c with
  | .startsWith => some (values.any fun v => Text.startsWith supplied v)
  | .endsWith => some (values.any fun v => Text.endsWith supplied v)
  | .includes => some (values.any fun v => Text.contains supplied v)
  | .excludes => some !(values.any fun v => Text.contains supplied v)
  | .regex => some (values.any fun v => Pattern.occursIn v supplied)
  | _ => none

end Conditional

/-- The number that a text denotes, with white space around it. -/
def Binary64.ofTrimmed? (s : String) : Option Binary64 := Binary64.ofText? (trim s.toList)

/-- The order of two numbers; a number that cannot be compared counts as less. -/
def Binary64.order (x y : Binary64) : Ordering := (x.compare? y).getD .lt

namespace Condition

/-- The texts of a condition's values. -/
def texts (c : Condition) : List String := c.values.filterMap Json.conditionText?

/-- Texts, dates and points in time: compared by the numbers of their characters, or searched. -/
def matchesText (c : Condition) (supplied : String) : Bool :=
  match c.conditional.compared? (compare supplied) c.texts with
  | some result => result
  | none => (c.conditional.searched? supplied c.texts).getD false

/-- Texts that are searched as they are, and compared by the values that they are read as. -/
def matchesRead {α : Type} (read : String → Option α) (order : α → α → Ordering) (c : Condition)
    (supplied : String) : Bool :=
  match c.conditional.searched? supplied c.texts with
  | some result => result
  | none =>
    match read supplied with
    | some x => (c.conditional.compared? (order x) (c.texts.filterMap read)).getD false
    | none => false

/-- The truth value that a condition's value stands for. -/
def expectedTruth : Json → Bool
  | .bool b => b
  | .string s => sameLetters s "true"
  | _ => false

/-- Truth values: compared with the first value of the condition. -/
def matchesTruth (c : Condition) (supplied : String) : Bool :=
  match c.values, c.conditional with
  | v :: _, .equals => sameLetters supplied "true" == expectedTruth v
  | v :: _, .notEquals => sameLetters supplied "true" != expectedTruth v
  | _, _ => false

/-- Networks: inside one of the networks of the condition, or inside none. -/
def matchesNetwork (c : Condition) (supplied : String) : Bool :=
  match IpNetwork.ofText? supplied with
  | none => false
  | some inner =>
    let inside := (c.texts.filterMap IpNetwork.ofText?).any fun outer => outer.contains inner
    match c.conditional with
    | .equals | .includes => inside
    | .notEquals | .excludes => !inside
    | _ => false

/-- Whether a supplied value satisfies the condition. -/
def isSatisfiedBy (c : Condition) (supplied : String) : Bool :=
  match c.fieldType with
  | .string | .date | .datetime => c.matchesText supplied
  | .number => c.matchesRead Binary64.ofTrimmed? Binary64.order supplied
  | .semanticVersion => c.matchesRead Version.ofText? Version.order supplied
  | .boolean => c.matchesTruth supplied
  | .ipAddress => c.matchesNetwork supplied
  | .unknown => false

end Condition

end FeatureFlags
