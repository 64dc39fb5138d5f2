import FeatureFlags.Json.Document

/-!
# Decoding documents

How typed values are read from documents. A record is an object, or an array of its fields in
the order of their declaration. A field that is not declared is ignored, whatever it holds; a
declared field that occurs twice is an error. A missing field is an error unless it has a
default, and a field after the last item of an array counts as missing.
-/

set_option autoImplicit false

namespace FeatureFlags.Json

/-- A way to read values of `α` from documents that go no deeper than a given room. -/
abbrev Decoder (α : Type) := Room → Document → Option α

namespace Decoder

variable {α β : Type}

/-- Any value. -/
def value : Decoder Json := fun room d => d.value? room

/-- A text. -/
def text : Decoder String := fun _ d =>
  match d with
  | .string s => s
  | _ => none

/-- A truth value. -/
def bool : Decoder Bool := fun _ d =>
  match d with
  | .bool b => some b
  | _ => none

/-- An integer between two bounds, written as one. -/
def intBetween (low high : Int) : Decoder Int := fun _ d =>
  match d with
  | .number (some (.int n)) => if low ≤ n ∧ n ≤ high then some n else none
  | _ => none

/-- A natural number up to a bound, written as an integer. -/
def natUpTo (high : Nat) : Decoder Nat := fun room d =>
  (intBetween 0 high room d).map Int.toNat

/-- `null` for none, or a value. -/
def nullable (decode : Decoder α) : Decoder (Option α) := fun room d =>
  match d with
  | .null => some none
  | d => (decode room d).map some

/-- Reads every document of a list. -/
def each (decode : Document → Option α) : List Document → Option (List α)
  | [] => some []
  | d :: rest => do
    let x ← decode d
    let xs ← each decode rest
    some (x :: xs)

/-- An array of values. -/
def list (decode : Decoder α) : Decoder (List α) := fun room d =>
  match d with
  | .array items => do
    let inner ← room.enter?
    each (decode inner) items
  | _ => none

/-- The name of a value without contents: a string, or an object with the name as its only key
and `null` behind it. -/
def name : Decoder String := fun room d =>
  match d with
  | .string s => s
  | .object [(key, .null)] => do
    let _ ← room.enter?
    key
  | _ => none

/-- One of a list of named values. -/
def oneOf (named : List (String × α)) : Decoder α := fun room d => do
  let n ← name room d
  Table.find? n named

/-- One of a list of named values, or a value that stands for all other names. -/
def oneOfOr (named : List (String × α)) (other : α) : Decoder α := fun room d => do
  let n ← name room d
  some ((Table.find? n named).getD other)

end Decoder

/-- The fields of a record, by name. A field without a document is missing. -/
abbrev Fields := List (String × Document)

namespace Fields

/-- The declared ones among the members of an object, if none of them occurs twice and every key
is a text. -/
def ofMembers (declared : List String) : List (Option String × Document) → Option Fields
  | [] => some []
  | (key, d) :: rest => do
    let k ← key
    let fields ← ofMembers declared rest
    if k ∈ declared then
      if (Table.find? k fields).isSome then none else some ((k, d) :: fields)
    else some fields

/-- The fields of a record with the declared names, and the room inside the record. -/
def read (declared : List String) (room : Room) (d : Document) : Option (Room × Fields) := do
  let inner ← room.enter?
  match d with
  | .object members => do
    let fields ← ofMembers declared members
    some (inner, fields)
  | .array items =>
    if declared.length < items.length then none else some (inner, declared.zip items)
  | _ => none

/-- The fields of a record that has no members but the declared ones. An array has all of them. -/
def readOnly (declared : List String) (room : Room) (d : Document) : Option (Room × Fields) :=
  let isComplete :=
    match d with
    | .object members => members.all fun m => m.1.any (· ∈ declared)
    | .array items => items.length == declared.length
    | _ => false
  if isComplete then read declared room d else none

variable {α : Type}

/-- A field that has to be there. -/
def required (fields : Fields) (room : Room) (name : String) (decode : Decoder α) : Option α := do
  let d ← Table.find? name fields
  decode room d

/-- A field that has a default. -/
def withDefault (fields : Fields) (room : Room) (name : String) (decode : Decoder α)
    (default : α) : Option α :=
  match Table.find? name fields with
  | some d => decode room d
  | none => some default

/-- A field that may be missing or `null`. -/
def optional (fields : Fields) (room : Room) (name : String) (decode : Decoder α) :
    Option (Option α) :=
  fields.withDefault room name decode.nullable none

end Fields

end FeatureFlags.Json
