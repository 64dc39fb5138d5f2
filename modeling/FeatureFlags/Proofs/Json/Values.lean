import FeatureFlags.Json.Document
import FeatureFlags.Proofs.Table.Listed

/-!
# Values and their documents

The document of a value is read as a value again. It is the same value if the members of all its
objects are in key order, which is so of every value that was itself read from a document
(`readsBack_of_value?`), however deep it lies and whatever members were repeated there.
-/

set_option autoImplicit false

namespace FeatureFlags.Json

open Document

/-- Whether a value is what is read from its document. -/
def ReadsBack (v : Json) : Prop := v.toDocument.value? .unlimited = some v

/-- Values that read back are read back as a list. -/
theorem values?_toDocuments {vs : List Json} (h : ∀ v ∈ vs, v.ReadsBack) :
    values? .unlimited (toDocuments vs) = some vs := by
  induction vs with
  | nil => rfl
  | cons v vs ih =>
    have hv : v.toDocument.value? .unlimited = some v := h v List.mem_cons_self
    have hvs := ih fun w hw => h w (List.mem_cons_of_mem v hw)
    simp [toDocuments, values?, hv, hvs]

/-- Members whose values read back are read back as a list. -/
theorem pairs?_toMembers {ms : List (String × Json)} (h : ∀ m ∈ ms, m.2.ReadsBack) :
    pairs? .unlimited (toMembers ms) = some ms := by
  induction ms with
  | nil => rfl
  | cons m ms ih =>
    have hm : m.2.toDocument.value? .unlimited = some m.2 := h m List.mem_cons_self
    have hms := ih fun n hn => h n (List.mem_cons_of_mem m hn)
    simp [toMembers, pairs?, hm, hms]

/-- An array of values that read back reads back. -/
theorem readsBack_array {vs : List Json} (h : ∀ v ∈ vs, v.ReadsBack) : (array vs).ReadsBack := by
  simp [ReadsBack, toDocument, value?, Room.enter?, values?_toDocuments h]

/-- An object of values that read back reads back. -/
theorem readsBack_ofMembers {ms : List (String × Json)} (h : ∀ m ∈ ms, m.2.ReadsBack) :
    (ofMembers ms).ReadsBack := by
  have hread : ∀ m ∈ (Table.ofList ms).bindings, m.2.ReadsBack :=
    fun m hm => h m (Table.mem_of_mem_ofList hm)
  have hsame : ofMembers (Table.ofList ms).bindings = ofMembers ms :=
    congrArg object (Table.bindings_ofList (Table.ofList ms).areOrdered)
  show ((object (Table.ofList ms).bindings).toDocument).value? .unlimited = _
  simp [toDocument, value?, Room.enter?, pairs?_toMembers hread, hsame]

mutual

/-- What is read from a document reads back, one case for each kind of document. -/
theorem readsBack_of_value? (room : Room) :
    ∀ (d : Document) {v : Json}, d.value? room = some v → v.ReadsBack
  | .null, v, h => by
    cases h
    rfl
  | .bool b, v, h => by
    cases h
    rfl
  | .number n, v, h => by
    obtain ⟨m, -, rfl⟩ := Option.map_eq_some_iff.mp h
    rfl
  | .string s, v, h => by
    obtain ⟨t, -, rfl⟩ := Option.map_eq_some_iff.mp h
    rfl
  | .array items, v, h => by
    simp only [value?, Option.bind_eq_bind, Option.bind_eq_some_iff, Option.some.injEq] at h
    obtain ⟨inner, -, vs, hvs, rfl⟩ := h
    exact readsBack_array (readsBack_of_values? inner items hvs)
  | .object members, v, h => by
    simp only [value?, Option.bind_eq_bind, Option.bind_eq_some_iff, Option.some.injEq] at h
    obtain ⟨inner, -, ms, hms, rfl⟩ := h
    exact readsBack_ofMembers (readsBack_of_pairs? inner members hms)

/-- Values that were read as a list read back. -/
theorem readsBack_of_values? (room : Room) :
    ∀ (ds : List Document) {vs : List Json}, values? room ds = some vs → ∀ v ∈ vs, v.ReadsBack
  | [], vs, h => by
    cases h
    simp
  | d :: ds, vs, h => by
    simp only [values?, Option.bind_eq_bind, Option.bind_eq_some_iff, Option.some.injEq] at h
    obtain ⟨w, hw, ws, hws, rfl⟩ := h
    intro v hv
    rcases List.mem_cons.mp hv with rfl | hv
    · exact readsBack_of_value? room d hw
    · exact readsBack_of_values? room ds hws v hv

/-- Members that were read as a list have values that read back. -/
theorem readsBack_of_pairs? (room : Room) :
    ∀ (members : List (Option String × Document)) {ms : List (String × Json)},
      pairs? room members = some ms → ∀ m ∈ ms, m.2.ReadsBack
  | [], ms, h => by
    cases h
    simp
  | (key, d) :: members, ms, h => by
    simp only [pairs?, Option.bind_eq_bind, Option.bind_eq_some_iff, Option.some.injEq] at h
    obtain ⟨k, -, w, hw, ws, hws, rfl⟩ := h
    intro m hm
    rcases List.mem_cons.mp hm with rfl | hm
    · exact readsBack_of_value? room d hw
    · exact readsBack_of_pairs? room members hws m hm

end

/-- Only the word `null` is read as the value `null`. -/
theorem eq_null_of_value? {room : Room} {d : Document} (h : d.value? room = some .null) :
    d = .null := by
  cases d <;> simp [value?, ofMembers, Option.bind_eq_some_iff] at h ⊢

end FeatureFlags.Json
