import FeatureFlags.Json.Basic

/-!
# JSON documents

What a JSON text says before a reader decides what to make of it. A document keeps repeated
members and their order, and it keeps the strings and numbers that no value can hold: a string
that is no text because of a lone surrogate or of octets that are not UTF-8, and a number beyond
the range of floating point numbers. Whether such a part matters is up to the decoder, which
ignores the members that it does not know.
-/

set_option autoImplicit false

namespace FeatureFlags.Json

/-- A JSON document. A part that no value can hold is `none`. -/
inductive Document where
  /-- The word `null`. -/
  | null
  /-- A truth value. -/
  | bool (b : Bool)
  /-- A number, if it is within range. -/
  | number (n : Option Number)
  /-- A string, if it is a text. -/
  | string (s : Option String)
  /-- An array. -/
  | array (items : List Document)
  /-- An object, with its members as they stand. -/
  | object (members : List (Option String × Document))
deriving Repr, Inhabited

mutual

/-- The document of a value. -/
def toDocument : Json → Document
  | .null => .null
  | .bool b => .bool b
  | .number n => .number (some n)
  | .string s => .string (some s)
  | .array items => .array (toDocuments items)
  | .object members => .object (toMembers members)

/-- The documents of a list of values. -/
def toDocuments : List Json → List Document
  | [] => []
  | x :: rest => toDocument x :: toDocuments rest

/-- The documents of a list of members. -/
def toMembers : List (String × Json) → List (Option String × Document)
  | [] => []
  | (k, x) :: rest => (some k, toDocument x) :: toMembers rest

end

/-- How many levels of arrays and objects a decoder may still go down. -/
inductive Room where
  /-- Any number of levels. -/
  | unlimited
  /-- So many levels. -/
  | levels (n : Nat)
deriving Repr, DecidableEq

/-- The room inside an array or object, if there is any. -/
def Room.enter? : Room → Option Room
  | .unlimited => some .unlimited
  | .levels 0 => none
  | .levels (n + 1) => some (.levels n)

/-- The room for a text that is read from the outside. -/
def Room.text : Room := .levels 127

namespace Document

mutual

/-- The value of a document, if every part of it is one and it goes no deeper than the room. The
last member with a key stays. -/
def value? (room : Room) : Document → Option Json
  | .null => some .null
  | .bool b => some (.bool b)
  | .number n => n.map .number
  | .string s => s.map .string
  | .array items => do
    let inner ← room.enter?
    let values ← values? inner items
    some (.array values)
  | .object members => do
    let inner ← room.enter?
    let pairs ← pairs? inner members
    some (ofMembers pairs)

/-- The values of a list of documents. -/
def values? (room : Room) : List Document → Option (List Json)
  | [] => some []
  | d :: rest => do
    let v ← value? room d
    let vs ← values? room rest
    some (v :: vs)

/-- The keys and values of a list of members. -/
def pairs? (room : Room) : List (Option String × Document) → Option (List (String × Json))
  | [] => some []
  | (k, d) :: rest => do
    let k ← k
    let v ← value? room d
    let vs ← pairs? room rest
    some ((k, v) :: vs)

end

end Document

end FeatureFlags.Json
