import FeatureFlags.Feature.State
import FeatureFlags.Json.Decode

/-!
# Features on the wire

How features, strategies and conditions are read from JSON documents and written as JSON values.
Reading accepts more than writing produces: missing fields with a default, records as arrays,
and names that are not known for comparisons and field types.
-/

set_option autoImplicit false

namespace FeatureFlags

open Json

/-- The names of the value types. -/
def ValueType.names : List (String × ValueType) :=
  [("BOOLEAN", .boolean), ("STRING", .string), ("NUMBER", .number), ("JSON", .json)]

/-- The names of the comparisons. -/
def Conditional.names : List (String × Conditional) :=
  [("EQUALS", .equals), ("NOT_EQUALS", .notEquals), ("ENDS_WITH", .endsWith),
    ("STARTS_WITH", .startsWith), ("GREATER", .greater), ("GREATER_EQUALS", .greaterEquals),
    ("LESS", .less), ("LESS_EQUALS", .lessEquals), ("INCLUDES", .includes),
    ("EXCLUDES", .excludes), ("REGEX", .regex), ("UNKNOWN", .unknown)]

/-- The names of the field types. -/
def FieldType.names : List (String × FieldType) :=
  [("STRING", .string), ("SEMANTIC_VERSION", .semanticVersion), ("NUMBER", .number),
    ("DATE", .date), ("DATETIME", .datetime), ("BOOLEAN", .boolean),
    ("IP_ADDRESS", .ipAddress), ("UNKNOWN", .unknown)]

/-- The name of a value in a list of named values. -/
def nameOf {α : Type} [DecidableEq α] (named : List (String × α)) (x : α) : String :=
  ((named.find? fun entry => entry.2 = x).map Prod.fst).getD ""

/-- The name of a value type. -/
def ValueType.name (t : ValueType) : String := nameOf ValueType.names t

/-- The name of a comparison. -/
def Conditional.name (c : Conditional) : String := nameOf Conditional.names c

/-- The name of a field type. -/
def FieldType.name (t : FieldType) : String := nameOf FieldType.names t

/-- Reads a value type. -/
def ValueType.decode : Decoder ValueType := .oneOf ValueType.names

/-- Reads a comparison; all names are accepted. -/
def Conditional.decode : Decoder Conditional := .oneOfOr Conditional.names .unknown

/-- Reads a field type; all names are accepted. -/
def FieldType.decode : Decoder FieldType := .oneOfOr FieldType.names .unknown

/-- Reads an identifier. -/
def Uuid.decode : Decoder Uuid := fun room d => do
  let s ← Decoder.text room d
  Uuid.ofText? s

/-- The fields of a condition, in order. -/
def Condition.fieldNames : List String := ["conditional", "fieldName", "values", "type"]

/-- Reads a condition. -/
def Condition.decode : Decoder Condition := fun room d => do
  let (inner, fields) ← Fields.read Condition.fieldNames room d
  let conditional ← fields.required inner "conditional" Conditional.decode
  let fieldName ← fields.required inner "fieldName" Decoder.text
  let values ← fields.withDefault inner "values" (Decoder.list Decoder.value) []
  let fieldType ← fields.required inner "type" FieldType.decode
  some { conditional, fieldName, values, fieldType }

/-- The fields of a strategy, in order. -/
def Strategy.fieldNames : List String :=
  ["id", "percentage", "percentageAttributes", "value", "attributes"]

/-- Reads a share: an integer of 32 bits. -/
def Strategy.decodeShare : Decoder UInt32 := fun room d =>
  (Decoder.natUpTo (Nat.pow 2 32 - 1) room d).map UInt32.ofNat

/-- Reads a strategy. -/
def Strategy.decode : Decoder Strategy := fun room d => do
  let (inner, fields) ← Fields.read Strategy.fieldNames room d
  let id ← fields.optional inner "id" Decoder.text
  let percentage ← fields.optional inner "percentage" Strategy.decodeShare
  let percentageAttributes ←
    fields.withDefault inner "percentageAttributes" (Decoder.list Decoder.text) []
  let value ← fields.optional inner "value" Decoder.value
  let conditions ← fields.withDefault inner "attributes" (Decoder.list Condition.decode) []
  some { id, percentage, percentageAttributes, value, conditions }

/-- The fields of a feature state, in order. -/
def FeatureState.fieldNames : List String :=
  ["id", "key", "version", "type", "value", "l", "strategies", "environmentId"]

/-- Reads a version: an integer of 64 bits with a sign. -/
def FeatureState.decodeVersion : Decoder Int :=
  .intBetween (-(Nat.pow 2 63 : Nat)) ((Nat.pow 2 63 : Nat) - 1)

/-- Reads a feature state. -/
def FeatureState.decode : Decoder FeatureState := fun room d => do
  let (inner, fields) ← Fields.read FeatureState.fieldNames room d
  let id ← fields.required inner "id" Uuid.decode
  let key ← fields.required inner "key" Decoder.text
  let version ← fields.optional inner "version" FeatureState.decodeVersion
  let valueType ← fields.optional inner "type" ValueType.decode
  let value ← fields.optional inner "value" Decoder.value
  let locked ← fields.withDefault inner "l" Decoder.bool false
  let strategies ← fields.withDefault inner "strategies" (Decoder.list Strategy.decode) []
  let environmentId ← fields.optional inner "environmentId" Uuid.decode
  some { id, key, version, valueType, value, locked, strategies, environmentId }

/-- The feature state that a value denotes. -/
def FeatureState.ofJson? (v : Json) : Option FeatureState :=
  FeatureState.decode .unlimited v.toDocument

/-- The value of a condition. -/
def Condition.toJson (c : Condition) : Json :=
  .ofMembers
    [("conditional", .string c.conditional.name), ("fieldName", .string c.fieldName),
      ("values", .array c.values), ("type", .string c.fieldType.name)]

/-- The value of a strategy. -/
def Strategy.toJson (s : Strategy) : Json :=
  .ofMembers
    [("id", .stringOrNull s.id), ("percentage", s.percentage.elim .null fun p => .nat p.toNat),
      ("percentageAttributes", .array (s.percentageAttributes.map .string)),
      ("value", .orNull s.value), ("attributes", .array (s.conditions.map Condition.toJson))]

/-- The value of a feature state. The environment is written only if it is known. -/
def FeatureState.toJson (s : FeatureState) : Json :=
  .ofMembers <|
    [("id", .string s.id.text), ("key", .string s.key),
      ("version", s.version.elim .null .int),
      ("type", .stringOrNull (s.valueType.map ValueType.name)),
      ("value", .orNull s.value), ("l", .bool s.locked),
      ("strategies", .array (s.strategies.map Strategy.toJson))] ++
    (match s.environmentId with
      | some id => [("environmentId", .string id.text)]
      | none => [])

/-! ### Lists with malformed items -/

/-- An item of a list that is read leniently: a value of its type, or what stood there instead. -/
inductive Lenient (α : Type) where
  /-- The item was read. -/
  | parsed (x : α)
  /-- The item was malformed, but was a JSON value. -/
  | malformed (v : Json)
deriving Repr

namespace Lenient

variable {α : Type}

/-- Reads an item of a lenient list. It has to be a JSON value in the room there is; then its
own form is free. -/
def decode (item : Decoder α) : Decoder (Lenient α) := fun room d => do
  let v ← d.value? room
  match item .unlimited d with
  | some x => some (.parsed x)
  | none => some (.malformed v)

/-- The item, if it was read. -/
def toOption : Lenient α → Option α
  | .parsed x => some x
  | .malformed _ => none

/-- The items that were read, in order. -/
def parsedOnly (items : List (Lenient α)) : List α := items.filterMap toOption

/-- How many items were malformed. -/
def countMalformed (items : List (Lenient α)) : Nat :=
  items.countP fun item => item.toOption.isNone

end Lenient

/-- Reads a list of features, item by item. -/
def FeatureState.decodeList : Decoder (List (Lenient FeatureState)) :=
  .list (Lenient.decode FeatureState.decode)

/-- The features of one environment. -/
structure Environment where
  /-- The identity of the environment. -/
  id : Uuid
  /-- Its features. -/
  features : List (Lenient FeatureState)
deriving Repr

/-- Reads the features of one environment. -/
def Environment.decode : Decoder Environment := fun room d => do
  let (inner, fields) ← Fields.read ["id", "features"] room d
  let id ← fields.required inner "id" Uuid.decode
  let features ← fields.withDefault inner "features" FeatureState.decodeList []
  some { id, features }

/-- Reads the features of several environments. -/
def Environment.decodeList : Decoder (List Environment) := .list Environment.decode

end FeatureFlags
