import FeatureFlags.Feature.Wire
import FeatureFlags.Proofs.Json.Records
import FeatureFlags.Proofs.Uuid.Text

/-!
# Features are read back as they were

A feature is read from many forms: records are objects or arrays, fields may be missing, and names
of comparisons and field types may be unknown. It is written in one form only. The main statement
is that this form loses nothing: whatever a feature was read from, it is read back from what it is
written as.

The proof goes down the three levels of records. For each of them `ReadsBack` says what has to hold
of a record so that it is read back (free values are in order and none of them stands for a
missing one, versions are in range); a record that was read is such (`readsBack_of_decode`), and
such a record is read back (`decode_toJson`).
-/

set_option autoImplicit false

namespace FeatureFlags

open Json

/-! ### Names -/

/-- A value that has a name is found by it. -/
theorem find?_nameOf {α : Type} [DecidableEq α] {named : List (String × α)} {x : α}
    (hnames : (named.map Prod.fst).Nodup) (hx : x ∈ named.map Prod.snd) :
    Table.find? (nameOf named x) named = some x := by
  obtain ⟨entry, hmem, rfl⟩ := List.mem_map.mp hx
  cases hfind : named.find? fun e => e.2 = entry.2 with
  | none => exact absurd (List.find?_eq_none.mp hfind entry hmem) (by simp)
  | some e =>
    have hsame : e.2 = entry.2 := by simpa using List.find?_some hfind
    have hfound := Table.find?_of_mem hnames (List.mem_of_find?_eq_some hfind)
    rw [nameOf, hfind, ← hsame]
    exact hfound

section Named

variable {α : Type} [DecidableEq α] {named : List (String × α)} {x : α}
  (hnames : (named.map Prod.fst).Nodup) (hx : x ∈ named.map Prod.snd) (room : Room)

include hnames hx

/-- A name of an enumeration is read as what it names. -/
theorem oneOf_nameOf :
    Decoder.oneOf named room (Json.string (nameOf named x)).toDocument = some x :=
  find?_nameOf hnames hx

/-- A name is read as what it names, although others are read as well. -/
theorem oneOfOr_nameOf (other : α) :
    Decoder.oneOfOr named other room (Json.string (nameOf named x)).toDocument = some x := by
  show some ((Table.find? (nameOf named x) named).getD other) = some x
  rw [find?_nameOf hnames hx]
  rfl

end Named

/-- The name of a type of values is read as this type. -/
theorem ValueType.decode_name (t : ValueType) :
    ValueType.decode .unlimited (Json.string t.name).toDocument = some t :=
  oneOf_nameOf (by decide) (by cases t <;> decide) _

/-- The name of a conditional is read as this conditional. -/
theorem Conditional.decode_name (c : Conditional) :
    Conditional.decode .unlimited (Json.string c.name).toDocument = some c :=
  oneOfOr_nameOf (by decide) (by cases c <;> decide) _ _

/-- The name of a type of fields is read as this type. -/
theorem FieldType.decode_name (t : FieldType) :
    FieldType.decode .unlimited (Json.string t.name).toDocument = some t :=
  oneOfOr_nameOf (by decide) (by cases t <;> decide) _ _

/-- What is written of an identity is read as this identity. -/
theorem Uuid.decode_text (id : Uuid) :
    Uuid.decode .unlimited (Json.string id.text).toDocument = some id :=
  Uuid.ofText?_text id

/-! ### Conditions -/

namespace Condition

/-- Whether the values of a condition are read back. -/
def ReadsBack (c : Condition) : Prop := ∀ v ∈ c.values, v.ReadsBack

/-- The values of a condition that was read are read back. -/
theorem readsBack_of_decode {room : Room} {d : Document} {c : Condition}
    (h : decode room d = some c) : c.ReadsBack := by
  simp only [decode, Option.bind_eq_bind, Option.bind_eq_some_iff, Option.some.injEq] at h
  obtain ⟨⟨inner, fields⟩, -, conditional, -, fieldName, -, values, hvalues, fieldType, -, rfl⟩ := h
  rcases Fields.eq_default_or_of_withDefault hvalues with rfl | ⟨d, hd⟩
  · exact fun v hv => (List.not_mem_nil hv).elim
  · exact Decoder.forall_mem_of_list (fun room d v hv => Json.readsBack_of_value? room d hv) hd

/-- The members that a condition is written as. -/
def members (c : Condition) : List (String × Json) :=
  [("conditional", .string c.conditional.name), ("fieldName", .string c.fieldName),
    ("values", .array c.values), ("type", .string c.fieldType.name)]

/-- What is written of a condition is read as this condition. -/
theorem decode_toJson {c : Condition} (h : c.ReadsBack) :
    decode .unlimited c.toJson.toDocument = some c := by
  have hkeys : (c.members.map Prod.fst).Nodup := by simp [members]
  have hread : Fields.read fieldNames .unlimited c.toJson.toDocument =
      some (.unlimited, Fields.written c.members) :=
    Fields.read_ofMembers (by simp [fieldNames])
  have hconditional : (Fields.written c.members).required .unlimited "conditional"
      Conditional.decode = some c.conditional :=
    (Fields.required_written _ _ hkeys rfl).trans (Conditional.decode_name _)
  have hfieldName : (Fields.written c.members).required .unlimited "fieldName" Decoder.text =
      some c.fieldName :=
    (Fields.required_written _ _ hkeys rfl).trans rfl
  have hvalues : (Fields.written c.members).withDefault .unlimited "values"
      (Decoder.list Decoder.value) [] = some c.values := by
    have hlist : Decoder.list Decoder.value .unlimited (array (c.values.map id)).toDocument =
        some c.values := Decoder.list_array h
    rw [List.map_id] at hlist
    exact (Fields.withDefault_written _ _ hkeys rfl []).trans hlist
  have hfieldType : (Fields.written c.members).required .unlimited "type" FieldType.decode =
      some c.fieldType :=
    (Fields.required_written _ _ hkeys rfl).trans (FieldType.decode_name _)
  simp [decode, hread, hconditional, hfieldName, hvalues, hfieldType]

end Condition

/-! ### Values that may be missing -/

/-- Whether a value that may be missing reads back. It may not be `null`, which stands for none. -/
def ReadsBackIfAny (o : Option Json) : Prop := ∀ v ∈ o, v.ReadsBack ∧ v ≠ .null

/-- A value that may be missing and was read is read back. -/
theorem readsBackIfAny_of_optional {fields : Fields} {room : Room} {name : String}
    {o : Option Json} (h : fields.optional room name Decoder.value = some o) :
    ReadsBackIfAny o := by
  rintro v rfl
  obtain ⟨d, hd, hv⟩ := Fields.exists_of_optional h
  refine ⟨Json.readsBack_of_value? room d hv, ?_⟩
  rintro rfl
  exact hd (Json.eq_null_of_value? hv)

/-- A value that may be missing is read as it was, and `null` as none. -/
theorem nullable_orNull {o : Option Json} (h : ReadsBackIfAny o) :
    Decoder.value.nullable .unlimited (Json.orNull o).toDocument = some o := by
  have hwrite : Json.orNull o = o.elim .null id := by cases o <;> rfl
  rw [hwrite]
  exact Decoder.nullable_elim h

/-- A text that may be missing is read as it was, and `null` as none. -/
theorem nullable_stringOrNull (o : Option String) :
    Decoder.text.nullable .unlimited (Json.stringOrNull o).toDocument = some o :=
  Decoder.nullable_elim fun _ _ => ⟨rfl, Json.noConfusion⟩

/-! ### Strategies -/

namespace Strategy

/-- Whether the free values of a strategy are read back. -/
structure ReadsBack (s : Strategy) : Prop where
  /-- The value it gives is. -/
  value : ReadsBackIfAny s.value
  /-- Its conditions are. -/
  conditions : ∀ c ∈ s.conditions, c.ReadsBack

/-- The free values of a strategy that was read are read back. -/
theorem readsBack_of_decode {room : Room} {d : Document} {s : Strategy}
    (h : decode room d = some s) : s.ReadsBack := by
  simp only [decode, Option.bind_eq_bind, Option.bind_eq_some_iff, Option.some.injEq] at h
  obtain ⟨⟨inner, fields⟩, -, id, -, percentage, -, percentageAttributes, -, value, hvalue,
    conditions, hconditions, rfl⟩ := h
  refine ⟨readsBackIfAny_of_optional hvalue, ?_⟩
  rcases Fields.eq_default_or_of_withDefault hconditions with rfl | ⟨d, hd⟩
  · exact fun c hc => (List.not_mem_nil hc).elim
  · exact Decoder.forall_mem_of_list (fun _ _ _ => Condition.readsBack_of_decode) hd

/-- A share is read as it was. -/
theorem decodeShare_nat (p : UInt32) :
    decodeShare .unlimited (Json.nat p.toNat).toDocument = some p := by
  have hlt : p.toNat ≤ Nat.pow 2 32 - 1 := Nat.le_sub_one_of_lt p.toNat_lt
  have hbounds : (0 : Int) ≤ p.toNat ∧ (p.toNat : Int) ≤ (Nat.pow 2 32 - 1 : Nat) :=
    ⟨Int.natCast_nonneg _, Int.ofNat_le.mpr hlt⟩
  show ((if _ then some (p.toNat : Int) else none).map Int.toNat).map UInt32.ofNat = _
  rw [if_pos hbounds]
  simp

/-- The members that a strategy is written as. -/
def members (s : Strategy) : List (String × Json) :=
  [("id", .stringOrNull s.id), ("percentage", s.percentage.elim .null fun p => .nat p.toNat),
    ("percentageAttributes", .array (s.percentageAttributes.map .string)),
    ("value", .orNull s.value), ("attributes", .array (s.conditions.map Condition.toJson))]

/-- What is written of a strategy is read as this strategy. -/
theorem decode_toJson {s : Strategy} (h : s.ReadsBack) :
    decode .unlimited s.toJson.toDocument = some s := by
  have hkeys : (s.members.map Prod.fst).Nodup := by simp [members]
  have hread : Fields.read fieldNames .unlimited s.toJson.toDocument =
      some (.unlimited, Fields.written s.members) :=
    Fields.read_ofMembers (by simp [fieldNames])
  have hid : (Fields.written s.members).optional .unlimited "id" Decoder.text = some s.id :=
    (Fields.optional_written _ _ hkeys rfl).trans (nullable_stringOrNull s.id)
  have hpercentage : (Fields.written s.members).optional .unlimited "percentage" decodeShare =
      some s.percentage :=
    (Fields.optional_written _ _ hkeys rfl).trans
      (Decoder.nullable_elim fun p _ => ⟨decodeShare_nat p, Json.noConfusion⟩)
  have hpercentageAttributes : (Fields.written s.members).withDefault .unlimited
      "percentageAttributes" (Decoder.list Decoder.text) [] = some s.percentageAttributes :=
    (Fields.withDefault_written _ _ hkeys rfl []).trans (Decoder.list_array fun _ _ => rfl)
  have hvalue : (Fields.written s.members).optional .unlimited "value" Decoder.value =
      some s.value :=
    (Fields.optional_written _ _ hkeys rfl).trans (nullable_orNull h.value)
  have hconditions : (Fields.written s.members).withDefault .unlimited "attributes"
      (Decoder.list Condition.decode) [] = some s.conditions :=
    (Fields.withDefault_written _ _ hkeys rfl []).trans
      (Decoder.list_array fun c hc => Condition.decode_toJson (h.conditions c hc))
  simp [decode, hread, hid, hpercentage, hpercentageAttributes, hvalue, hconditions]

end Strategy

/-! ### Features -/

namespace FeatureState

/-- Whether the version of a feature is in range and its free values are read back. -/
structure ReadsBack (s : FeatureState) : Prop where
  /-- The version has 64 bits. -/
  version : ∀ n ∈ s.version, -(Nat.pow 2 63 : Nat) ≤ n ∧ n ≤ (Nat.pow 2 63 : Nat) - 1
  /-- The value is read back. -/
  value : ReadsBackIfAny s.value
  /-- The strategies are. -/
  strategies : ∀ t ∈ s.strategies, t.ReadsBack

/-- The version of a feature that was read is in range, and its free values are read back. -/
theorem readsBack_of_decode {room : Room} {d : Document} {s : FeatureState}
    (h : decode room d = some s) : s.ReadsBack := by
  simp only [decode, Option.bind_eq_bind, Option.bind_eq_some_iff, Option.some.injEq] at h
  obtain ⟨⟨inner, fields⟩, -, id, -, key, -, version, hversion, valueType, -, value, hvalue,
    locked, -, strategies, hstrategies, environmentId, -, rfl⟩ := h
  refine ⟨?_, readsBackIfAny_of_optional hvalue, ?_⟩
  · rintro n rfl
    obtain ⟨d, -, hn⟩ := Fields.exists_of_optional hversion
    unfold decodeVersion Decoder.intBetween at hn
    split at hn
    · split at hn
      · next hbounds =>
        rw [← Option.some.inj hn]
        exact hbounds
      · cases hn
    · cases hn
  · rcases Fields.eq_default_or_of_withDefault hstrategies with rfl | ⟨d, hd⟩
    · exact fun t ht => (List.not_mem_nil ht).elim
    · exact Decoder.forall_mem_of_list (fun _ _ _ => Strategy.readsBack_of_decode) hd

/-- A version of 64 bits is read as it was. -/
theorem decodeVersion_int {n : Int} (h : -(Nat.pow 2 63 : Nat) ≤ n ∧ n ≤ (Nat.pow 2 63 : Nat) - 1) :
    decodeVersion .unlimited (Json.int n).toDocument = some n :=
  if_pos h

/-- The members that a feature is written as. -/
def members (s : FeatureState) : List (String × Json) :=
  [("id", .string s.id.text), ("key", .string s.key),
    ("version", s.version.elim .null .int),
    ("type", .stringOrNull (s.valueType.map ValueType.name)),
    ("value", .orNull s.value), ("l", .bool s.locked),
    ("strategies", .array (s.strategies.map Strategy.toJson))] ++
  (match s.environmentId with
    | some id => [("environmentId", .string id.text)]
    | none => [])

/-- Among the members of a feature the name of the environment leads to it, if there is one. -/
theorem find?_environmentId (s : FeatureState) : Table.find? "environmentId" s.members =
    s.environmentId.map fun id => .string id.text := by
  obtain ⟨_, _, _, _, _, _, _, environmentId⟩ := s
  cases environmentId <;> rfl

/-- What is written of a feature is read as this feature. -/
theorem decode_toJson {s : FeatureState} (h : s.ReadsBack) :
    decode .unlimited s.toJson.toDocument = some s := by
  have hkeys : (s.members.map Prod.fst).Nodup := by
    unfold members
    cases s.environmentId <;> simp
  have hread : Fields.read fieldNames .unlimited s.toJson.toDocument =
      some (.unlimited, Fields.written s.members) := by
    refine Fields.read_ofMembers ?_
    cases s.environmentId <;> simp [fieldNames]
  have hid : (Fields.written s.members).required .unlimited "id" Uuid.decode = some s.id :=
    (Fields.required_written _ _ hkeys rfl).trans (Uuid.decode_text s.id)
  have hkey : (Fields.written s.members).required .unlimited "key" Decoder.text = some s.key :=
    (Fields.required_written _ _ hkeys rfl).trans rfl
  have hversion : (Fields.written s.members).optional .unlimited "version" decodeVersion =
      some s.version :=
    (Fields.optional_written _ _ hkeys rfl).trans
      (Decoder.nullable_elim fun n hn => ⟨decodeVersion_int (h.version n hn), Json.noConfusion⟩)
  have hvalueType : (Fields.written s.members).optional .unlimited "type" ValueType.decode =
      some s.valueType := by
    have hwrite : Json.stringOrNull (s.valueType.map ValueType.name) =
        s.valueType.elim .null fun t => .string t.name := by
      cases s.valueType <;> rfl
    refine (Fields.optional_written _ _ hkeys rfl).trans ?_
    rw [hwrite]
    exact Decoder.nullable_elim fun t _ => ⟨ValueType.decode_name t, Json.noConfusion⟩
  have hvalue : (Fields.written s.members).optional .unlimited "value" Decoder.value =
      some s.value :=
    (Fields.optional_written _ _ hkeys rfl).trans (nullable_orNull h.value)
  have hlocked : (Fields.written s.members).withDefault .unlimited "l" Decoder.bool false =
      some s.locked :=
    (Fields.withDefault_written _ _ hkeys rfl false).trans rfl
  have hstrategies : (Fields.written s.members).withDefault .unlimited "strategies"
      (Decoder.list Strategy.decode) [] = some s.strategies :=
    (Fields.withDefault_written _ _ hkeys rfl []).trans
      (Decoder.list_array fun t ht => Strategy.decode_toJson (h.strategies t ht))
  have henvironmentId : (Fields.written s.members).optional .unlimited "environmentId"
      Uuid.decode = some s.environmentId := by
    have hfind := find?_environmentId s
    cases hs : s.environmentId with
    | none =>
      rw [hs] at hfind
      simp [Fields.optional, Fields.withDefault, Fields.find?_written hkeys, hfind]
    | some id =>
      rw [hs] at hfind
      refine (Fields.optional_written _ _ hkeys hfind).trans ?_
      exact congrArg (Option.map some) (Uuid.decode_text id)
  simp [decode, hread, hid, hkey, hversion, hvalueType, hvalue, hlocked, hstrategies,
    henvironmentId]

/-- Exactly the features with the stated properties are read back from what they are written as. -/
theorem readsBack_iff {s : FeatureState} : s.ReadsBack ↔ ofJson? s.toJson = some s :=
  ⟨decode_toJson, readsBack_of_decode⟩

/-- Whatever a feature was read from, it is read back from what it is written as. -/
theorem ofJson?_toJson {j : Json} {s : FeatureState} (h : ofJson? j = some s) :
    ofJson? s.toJson = some s :=
  readsBack_iff.mp (readsBack_of_decode h)

/-- A feature as an array of its fields, with an enumeration as an object, a comparison and a
field type that are not known, members out of order, and the last fields missing. -/
def bannerDocument : Json :=
  .array
    [.string "11111111111111111111111111111111", .string "banner", .null,
      .object [("JSON", .null)],
      .object [("b", .int 1), ("a", .array [.null, .number (.float (.zero true))])],
      .bool true,
      .array
        [.object
          [("percentage", .int 250000), ("extra", .null),
            ("attributes", .array
              [.array [.string "SOUNDS_LIKE", .string "name", .array [.null], .string "GEO"]])]]]

/-- A feature that was read from an array is read back from the object that it is written as. -/
theorem ofJson?_toJson_banner : ∃ s : FeatureState, ofJson? bannerDocument = some s ∧
    (s.key = "banner" ∧ s.version = none ∧ s.valueType = some .json ∧ s.locked = true ∧
      s.strategies.map (·.percentage) = [some 250000]) ∧
    ofJson? s.toJson = some s := by
  have hread : ofJson? bannerDocument = some _ := rfl
  exact ⟨_, hread, ⟨rfl, rfl, rfl, rfl, rfl⟩, ofJson?_toJson hread⟩

end FeatureState

end FeatureFlags
