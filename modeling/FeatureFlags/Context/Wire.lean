import FeatureFlags.Context.Attributes
import FeatureFlags.Json.Decode

/-!
# Reading and writing attributes

Attributes are written as an object with a list of values behind every name.
-/

set_option autoImplicit false

namespace FeatureFlags.Attributes

open Json

/-- Reads the values behind the names, of which the last with a name stays. -/
def decodeMembers (values : Document → Option (List String)) :
    List (Option String × Document) → Option (List (String × List String))
  | [] => some []
  | (key, d) :: rest => do
    let name ← key
    let vs ← values d
    let others ← decodeMembers values rest
    some ((name, vs) :: others)

/-- Reads attributes. -/
def decode : Decoder Attributes := fun room d =>
  match d with
  | .object members => do
    let inner ← room.enter?
    let bindings ← decodeMembers (Decoder.list Decoder.text inner) members
    some ⟨Table.ofList bindings⟩
  | _ => none

/-- The value of attributes. -/
def toJson (a : Attributes) : Json :=
  .ofMembers (a.table.bindings.map fun b => (b.1, .array (b.2.map .string)))

end FeatureFlags.Attributes
