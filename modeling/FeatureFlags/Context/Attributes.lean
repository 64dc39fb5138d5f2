import FeatureFlags.Table
import FeatureFlags.Text.FormEncoding

/-!
# Attributes of a context

What is known about one user or request: names with lists of values, in the order of the names.
The header carries them to a server: each name with its values, form-encoded.
-/

set_option autoImplicit false

namespace FeatureFlags

/-- The attributes of a context. -/
structure Attributes where
  /-- The values by name. -/
  table : Table String (List String)
deriving DecidableEq, Repr

namespace Attributes

/-- The attribute with the identity of the user. -/
def userKey : String := "userkey"

/-- The attribute with the identity of the session. -/
def sessionKey : String := "session"

/-- The attribute with the country. -/
def country : String := "country"

/-- The attribute with the kind of the device. -/
def device : String := "device"

/-- The attribute with the operating system. -/
def platform : String := "platform"

/-- The attribute with the version of the application. -/
def version : String := "version"

/-- The context that nothing is known about. -/
def empty : Attributes := ⟨.empty⟩

instance : Inhabited Attributes := ⟨empty⟩

/-- Whether nothing is known. -/
def isEmpty (a : Attributes) : Bool := a.table.isEmpty

/-- All values of an attribute, if the attribute was set. -/
def getAll (a : Attributes) (name : String) : Option (List String) := a.table.get? name

/-- The first value of an attribute. -/
def get (a : Attributes) (name : String) : Option String := (a.getAll name).bind List.head?

/-- Sets all values of an attribute. -/
def setAll (a : Attributes) (name : String) (values : List String) : Attributes :=
  ⟨a.table.insert name values⟩

/-- Sets an attribute to one value. -/
def set (a : Attributes) (name value : String) : Attributes := a.setAll name [value]

/-- Removes an attribute. -/
def erase (a : Attributes) (name : String) : Attributes := ⟨a.table.erase name⟩

/-- The attributes with one value each, of which the last with a name stays. -/
def ofPairs (pairs : List (String × String)) : Attributes :=
  pairs.foldl (fun a p => a.set p.1 p.2) empty

/-- The identity by which a context gets its bucket: the session, or else the user. -/
def identity (a : Attributes) : Option String := (a.get sessionKey).or (a.get userKey)

/-- One attribute in the header: the values are joined by commas and then encoded. -/
def headerField (name : String) (values : List String) : String :=
  name ++ "=" ++ Text.formEncode (",".intercalate values)

/-- The header with all attributes; there is none if nothing is known. -/
def header (a : Attributes) : Option String :=
  if a.isEmpty then none
  else some (",".intercalate (a.table.bindings.map fun b => headerField b.1 b.2))

end Attributes

end FeatureFlags
