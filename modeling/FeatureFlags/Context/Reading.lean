import FeatureFlags.Matching
import FeatureFlags.Repository.Resolve

/-!
# Reading typed values

What a resolved value is worth to a reader who expects a type. A value that does not fit the type
is no value, but texts that spell a truth value or a number are accepted, and a text stands for
itself wherever a text or a JSON document is expected.
-/

set_option autoImplicit false

namespace FeatureFlags

namespace Json

/-- The truth value that a value stands for. -/
def asFlag? : Json → Option Bool
  | .bool b => some b
  | .string s => some (Text.sameLetters s "true")
  | _ => none

/-- The text that a value stands for: its own, or its JSON text. -/
def asText : Json → String
  | .string s => s
  | v => v.compress

/-- The number that a value stands for. -/
def asNumber? : Json → Option Binary64
  | .number n => some n.toBinary64
  | .string s => Binary64.ofTrimmed? s
  | _ => none

end Json

/-- A feature as it looks from a context: its entry, and its value for every expected type. -/
structure FeatureReading where
  /-- The entry. -/
  entry : Entry
  /-- The value for readers who expect a type, or any. -/
  resolve : Option ValueType → Option Json

namespace FeatureReading

/-- The value, whatever its type. -/
def value (f : FeatureReading) : Option Json := f.resolve none

/-- The value of a flag. -/
def flag (f : FeatureReading) : Option Bool := (f.resolve (some .boolean)).bind Json.asFlag?

/-- Whether the feature is a flag that is on. -/
def isEnabled (f : FeatureReading) : Bool := f.flag == some true

/-- The value of a text. -/
def string (f : FeatureReading) : Option String := (f.resolve (some .string)).map Json.asText

/-- The value of a number. -/
def number (f : FeatureReading) : Option Binary64 :=
  (f.resolve (some .number)).bind Json.asNumber?

/-- The text of a JSON document. -/
def rawJson (f : FeatureReading) : Option String := (f.resolve (some .json)).map Json.asText

/-- A JSON document; an error if its text is none. -/
def json (f : FeatureReading) : Except Unit (Option Json) :=
  match f.rawJson with
  | none => .ok none
  | some text =>
    match Json.ofText? text with
    | some v => .ok (some v)
    | none => .error ()

/-- Whether the feature has a value at all. -/
def isSet (f : FeatureReading) : Bool := f.value.any fun v => !v.isNull

end FeatureReading

end FeatureFlags
