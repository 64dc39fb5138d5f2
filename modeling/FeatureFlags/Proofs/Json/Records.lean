import FeatureFlags.Json.Decode
import FeatureFlags.Proofs.Json.Values

/-!
# Records that were written

A record is written as an object with a member for each of its fields. Whatever order the members
take there, reading the object gives the declared fields by their names (`read_ofMembers`,
`find?_written`), so that a field that is looked for is decoded from the value that was written
for it. Lists and optional values are read back if their parts are.
-/

set_option autoImplicit false

namespace FeatureFlags.Json

variable {α : Type}

namespace Fields

/-- The fields that are read from an object with the given members. -/
def written (members : List (String × Json)) : Fields :=
  (Table.ofList members).bindings.map fun m => (m.1, m.2.toDocument)

/-- A written field is found under its name. -/
theorem find?_written {members : List (String × Json)} (hkeys : (members.map Prod.fst).Nodup)
    (name : String) :
    Table.find? name (written members) = (Table.find? name members).map toDocument := by
  unfold written
  rw [Table.find?_map]
  exact congrArg (Option.map toDocument) (Table.get?_ofList hkeys name)

section Written

variable {members : List (String × Json)} {name : String} {v : Json} (room : Room)
  (decode : Decoder α)

/-- A required field is read as it was written. -/
theorem required_written (hkeys : (members.map Prod.fst).Nodup)
    (hv : Table.find? name members = some v) :
    (written members).required room name decode = decode room v.toDocument := by
  simp [required, find?_written hkeys, hv]

/-- A field with a default is read as it was written, if it was. -/
theorem withDefault_written (hkeys : (members.map Prod.fst).Nodup)
    (hv : Table.find? name members = some v) (default : α) :
    (written members).withDefault room name decode default = decode room v.toDocument := by
  simp [withDefault, find?_written hkeys, hv]

/-- An optional field is read as it was written, if it was. -/
theorem optional_written (hkeys : (members.map Prod.fst).Nodup)
    (hv : Table.find? name members = some v) :
    (written members).optional room name decode = decode.nullable room v.toDocument :=
  withDefault_written room decode.nullable hkeys hv none

end Written

/-- The members of an object are its fields if all of them are declared and none is repeated. -/
theorem ofMembers_toMembers {declared : List String} {members : List (String × Json)}
    (hkeys : (members.map Prod.fst).Nodup) (hdeclared : ∀ m ∈ members, m.1 ∈ declared) :
    ofMembers declared (toMembers members) =
      some (members.map fun m => (m.1, m.2.toDocument)) := by
  induction members with
  | nil => rfl
  | cons m rest ih =>
    obtain ⟨hm, hrest⟩ := List.nodup_cons.mp hkeys
    have hfields := ih hrest fun n hn => hdeclared n (List.mem_cons_of_mem m hn)
    have hnone : Table.find? m.1 (rest.map fun m => (m.1, m.2.toDocument)) = none := by
      rw [Table.find?_eq_none_iff, List.map_map]
      exact hm
    simp [toMembers, ofMembers, hfields, hdeclared m List.mem_cons_self, hnone]

/-- An object whose members are all declared is read as its fields. -/
theorem read_ofMembers {declared : List String} {members : List (String × Json)}
    (hdeclared : ∀ m ∈ members, m.1 ∈ declared) :
    read declared .unlimited (Json.ofMembers members).toDocument =
      some (.unlimited, written members) := by
  have hfields := ofMembers_toMembers (Table.ofList members).areOrdered.nodup
    fun m hm => hdeclared m (Table.mem_of_mem_ofList hm)
  simp [read, Json.ofMembers, toDocument, Room.enter?, hfields, written]

/-- A field with a default has it, or what its decoder reads. -/
theorem eq_default_or_of_withDefault {fields : Fields} {room : Room} {name : String}
    {decode : Decoder α} {default x : α}
    (h : fields.withDefault room name decode default = some x) :
    x = default ∨ ∃ d, decode room d = some x := by
  unfold withDefault at h
  cases hd : Table.find? name fields with
  | some d => exact Or.inr ⟨d, by simpa [hd] using h⟩
  | none => exact Or.inl (by simpa [hd] using h.symm)

/-- An optional field that is there was read from something else than `null`. -/
theorem exists_of_optional {fields : Fields} {room : Room} {name : String} {decode : Decoder α}
    {x : α} (h : fields.optional room name decode = some (some x)) :
    ∃ d, d ≠ .null ∧ decode room d = some x := by
  rcases eq_default_or_of_withDefault h with hnone | ⟨d, hd⟩
  · cases hnone
  · unfold Decoder.nullable at hd
    split at hd
    · cases hd
    · next hnull =>
      obtain ⟨y, hy, heq⟩ := Option.map_eq_some_iff.mp hd
      exact ⟨d, hnull, hy.trans heq⟩

end Fields

namespace Decoder

/-- A list is read back if its items are. -/
theorem list_array {decode : Decoder α} {write : α → Json} {xs : List α}
    (h : ∀ x ∈ xs, decode .unlimited (write x).toDocument = some x) :
    list decode .unlimited (array (xs.map write)).toDocument = some xs := by
  show each (decode .unlimited) (toDocuments (xs.map write)) = some xs
  induction xs with
  | nil => rfl
  | cons x xs ih =>
    have hx := h x List.mem_cons_self
    have hxs := ih fun y hy => h y (List.mem_cons_of_mem x hy)
    simp [toDocuments, each, hx, hxs]

/-- Every item of a list that was read has what the decoder of its items ensures. -/
theorem forall_mem_of_list {decode : Decoder α} {P : α → Prop}
    (h : ∀ room d x, decode room d = some x → P x) {room : Room} {d : Document} {xs : List α}
    (hxs : list decode room d = some xs) : ∀ x ∈ xs, P x := by
  cases d with
  | array items =>
    obtain ⟨inner, -, heach⟩ := Option.bind_eq_some_iff.mp hxs
    clear hxs
    induction items generalizing xs with
    | nil =>
      cases heach
      simp
    | cons item items ih =>
      simp only [each, Option.bind_eq_bind, Option.bind_eq_some_iff, Option.some.injEq] at heach
      obtain ⟨y, hy, ys, hys, rfl⟩ := heach
      intro x hx
      rcases List.mem_cons.mp hx with rfl | hx
      · exact h inner item x hy
      · exact ih hys x hx
  | _ => cases hxs

/-- A value that is not there is written as `null`, which no value that is there may be. -/
theorem nullable_elim {decode : Decoder α} {write : α → Json} {o : Option α}
    (h : ∀ x ∈ o, decode .unlimited (write x).toDocument = some x ∧ (write x) ≠ .null) :
    nullable decode .unlimited (o.elim .null write).toDocument = some o := by
  cases o with
  | none => rfl
  | some x =>
    obtain ⟨hread, hnull⟩ := h x rfl
    show nullable decode .unlimited (write x).toDocument = _
    unfold nullable
    split
    · next heq =>
      refine absurd ?_ hnull
      cases hw : write x <;> simp [hw, toDocument] at heq ⊢
    · rw [hread]
      rfl

end Decoder

end FeatureFlags.Json
