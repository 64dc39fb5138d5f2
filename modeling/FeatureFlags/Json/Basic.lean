import FeatureFlags.Number.Notation
import FeatureFlags.Table

/-!
# JSON values

A JSON value is kept in one canonical form: the members of an object stand in key order and no
key occurs twice, so that two values are equal exactly if they are written alike. Integers and
floating point numbers are different values, whatever number they denote; the two floating point
zeros are the same value.
-/

set_option autoImplicit false

namespace FeatureFlags

/-- A number as JSON tells them apart. -/
inductive Number where
  /-- An integer between `-2 ^ 63` and `2 ^ 64 - 1`. -/
  | int (n : Int)
  /-- Any other number, rounded. -/
  | float (x : Binary64)
deriving Repr, DecidableEq, Inhabited

namespace Number

/-- The number as a floating point number. -/
def toBinary64 : Number → Binary64
  | .int n => .ofInt n
  | .float x => x

/-- Whether two numbers are the same value. -/
def same : Number → Number → Bool
  | .int m, .int n => m == n
  | .float x, .float y => x.sameValue y
  | _, _ => false

/-- The text of a number. -/
def text : Number → List Char
  | .int n => integerText n
  | .float x => x.text

end Number

/-- A JSON value. The members of an object are those of a `Table`: in key order, each key
once. -/
inductive Json where
  /-- The value `null`. -/
  | null
  /-- A truth value. -/
  | bool (b : Bool)
  /-- A number. -/
  | number (n : Number)
  /-- A text. -/
  | string (s : String)
  /-- A list of values. -/
  | array (items : List Json)
  /-- Values by key. -/
  | object (members : List (String × Json))
deriving Repr, Inhabited

namespace Json

/-- The object with the given members, of which the last with a key stays. -/
def ofMembers (members : List (String × Json)) : Json := .object (Table.ofList members).bindings

/-- The integer as a value. -/
def int (n : Int) : Json := .number (.int n)

/-- The natural number as a value. -/
def nat (n : Nat) : Json := .number (.int n)

/-- The text as a value, `null` if there is none. -/
def stringOrNull (s : Option String) : Json := s.elim .null .string

/-- The value, or `null` if there is none. -/
def orNull (v : Option Json) : Json := v.getD .null

mutual

/-- Whether two values are the same. -/
def same : Json → Json → Bool
  | .null, .null => true
  | .bool a, .bool b => a == b
  | .number m, .number n => m.same n
  | .string s, .string t => s == t
  | .array xs, .array ys => sameItems xs ys
  | .object xs, .object ys => sameMembers xs ys
  | _, _ => false

/-- Whether two lists have the same values at the same places. -/
def sameItems : List Json → List Json → Bool
  | [], [] => true
  | x :: xs, y :: ys => same x y && sameItems xs ys
  | _, _ => false

/-- Whether two lists have the same members at the same places. -/
def sameMembers : List (String × Json) → List (String × Json) → Bool
  | [], [] => true
  | (j, x) :: xs, (k, y) :: ys => j == k && same x y && sameMembers xs ys
  | _, _ => false

end

/-- Whether two optional values are both absent or the same. -/
def sameOptional : Option Json → Option Json → Bool
  | none, none => true
  | some x, some y => same x y
  | _, _ => false

/-- The member of an object with a given key. -/
def member? : Json → String → Option Json
  | .object members, key => Table.find? key members
  | _, _ => none

/-- Whether the value is `null`. -/
def isNull : Json → Bool
  | .null => true
  | _ => false

end Json

end FeatureFlags
