import FeatureFlags.Context.Attributes
import FeatureFlags.Proofs.Table.Order
import FeatureFlags.Proofs.Text.FormEncoding

/-!
# The header identifies the context

A recipient cuts a header at its commas, and each field at its first equals sign (`readHeader`).
As long as no name has one of these marks in it, what is read are the names with their values,
joined by commas (`readHeader_header`): the marks do not occur in an encoded value, whatever the
value is. So headers are equal exactly if the names with their joined values are, and nothing that
is set as a value of one attribute shows in the fields of another.
-/

set_option autoImplicit false

namespace FeatureFlags.Attributes

open Text (formEncode formOctets octets)

/-- Whether a name has none of the marks of a header in it. -/
def IsPlainName (name : String) : Prop := ',' ∉ name.toList ∧ '=' ∉ name.toList

instance (name : String) : Decidable (IsPlainName name) := inferInstanceAs (Decidable (_ ∧ _))

/-- Whether all names of some attributes are plain. -/
def IsPlain (a : Attributes) : Prop := ∀ b ∈ a.table.bindings, IsPlainName b.1

/-- The values of each attribute, joined by commas. -/
def joined (a : Attributes) : Table String String :=
  a.table.map fun values => ",".intercalate values

/-- The joined values of an attribute, if it is there. -/
theorem get?_joined (a : Attributes) (name : String) :
    a.joined.get? name = (a.getAll name).map fun values => ",".intercalate values :=
  Table.get?_map a.table _ name

/-- A field of a header as it is read: the name, and the octets of the value. -/
def readField (field : List Char) : String × List UInt8 :=
  (String.ofList (field.takeWhile (· ≠ '=')), formOctets (field.dropWhile (· ≠ '=')).tail)

/-- The fields of a header as they are read; without a header there are none. -/
def readHeader (header : Option String) : List (String × List UInt8) :=
  header.elim [] fun h => (h.toList.splitOn ',').map readField

/-! ### Plain attributes -/

/-- Without attributes all names are plain. -/
theorem isPlain_empty : empty.IsPlain := fun _ hb => nomatch hb

/-- An attribute with a plain name keeps the names plain. -/
theorem IsPlain.setAll {a : Attributes} (h : a.IsPlain) {name : String} (hname : IsPlainName name)
    (values : List String) : (a.setAll name values).IsPlain := by
  intro b hb
  rcases Table.mem_place hb with rfl | hb
  · exact hname
  · exact h b hb

/-- Fewer attributes keep the names plain. -/
theorem IsPlain.erase {a : Attributes} (h : a.IsPlain) (name : String) : (a.erase name).IsPlain :=
  fun b hb => h b (List.mem_filter.mp hb).1

/-! ### Fields -/

/-- A field is the name, and behind a sign the values in code. -/
theorem toList_headerField (name : String) (values : List String) :
    (headerField name values).toList =
      name.toList ++ '=' :: (formEncode (",".intercalate values)).toList := by
  simp [headerField]

/-- No field has a comma in it. -/
theorem not_mem_headerField {name : String} (hname : IsPlainName name) (values : List String) :
    ',' ∉ (headerField name values).toList := by
  rw [toList_headerField, List.mem_append, List.mem_cons]
  rintro (hcomma | hcomma | hcomma)
  · exact hname.1 hcomma
  · exact absurd hcomma (by decide)
  · exact absurd (Text.isFormChar_of_mem_formEncode hcomma) (by decide)

/-- From a field its name and its joined values can be read. -/
theorem readField_headerField {name : String} (hname : IsPlainName name) (values : List String) :
    readField (headerField name values).toList = (name, octets (",".intercalate values)) := by
  have hne : ∀ c ∈ name.toList, decide (c ≠ '=') = true := fun c hc =>
    decide_eq_true fun heq => hname.2 (heq ▸ hc)
  rw [toList_headerField]
  unfold readField
  rw [List.takeWhile_append_of_pos hne, List.dropWhile_append_of_pos hne]
  simp [Text.formOctets_formEncode]

/-! ### Headers -/

/-- There is no header exactly if there are no attributes. -/
theorem header_eq_none_iff (a : Attributes) : a.header = none ↔ a = empty := by
  obtain ⟨⟨bindings, -⟩⟩ := a
  cases bindings with
  | nil => exact iff_of_true rfl rfl
  | cons b rest =>
    refine iff_of_false ?_ ?_ <;> intro h <;> cases h

/-- At the commas a header falls into its fields: no comma is in a name or in the code of values. -/
theorem splitOn_header {bindings : List (String × List String)} (hne : bindings ≠ [])
    (h : ∀ b ∈ bindings, IsPlainName b.1) :
    (",".intercalate (bindings.map fun b => headerField b.1 b.2)).toList.splitOn ',' =
      bindings.map fun b => (headerField b.1 b.2).toList := by
  have hfields : ∀ field ∈ bindings.map (fun b => (headerField b.1 b.2).toList), ',' ∉ field := by
    intro field hfield
    obtain ⟨b, hb, rfl⟩ := List.mem_map.mp hfield
    exact not_mem_headerField (h b hb) b.2
  rw [String.toList_intercalate, List.map_map]
  exact List.splitOn_intercalate ',' hfields (by simpa using hne)

/-- What is read of a header are the names with their joined values. -/
theorem readHeader_header {a : Attributes} (h : a.IsPlain) :
    readHeader a.header = a.joined.bindings.map fun b => (b.1, octets b.2) := by
  unfold header joined Table.map
  split
  next hempty =>
    have hnone : a.table.bindings = [] := List.isEmpty_iff.mp hempty
    simp [readHeader, hnone]
  next hempty =>
    have hsome : a.table.bindings ≠ [] := fun hnil => hempty (List.isEmpty_iff.mpr hnil)
    rw [readHeader, Option.elim_some, splitOn_header hsome h, List.map_map, List.map_map]
    exact List.map_congr_left fun b hb => readField_headerField (h b hb) b.2

/-- A header shows nothing but the names and their joined values. -/
theorem header_congr {a b : Attributes} (h : a.joined = b.joined) : a.header = b.header := by
  have hheader : ∀ c : Attributes, c.header =
      if c.joined.bindings.isEmpty then none
      else
        some (",".intercalate (c.joined.bindings.map fun f => f.1 ++ "=" ++ formEncode f.2)) := by
    intro c
    simp [header, isEmpty, Table.isEmpty, joined, Table.map, headerField, Function.comp_def]
  rw [hheader, hheader, h]

/-- Attributes with the same header have the same joined values. -/
theorem joined_eq_of_header_eq {a b : Attributes} (ha : a.IsPlain) (hb : b.IsPlain)
    (h : a.header = b.header) : a.joined = b.joined := by
  have hinj : ∀ f g : String × String, (f.1, octets f.2) = (g.1, octets g.2) → f = g := by
    intro f g heq
    rw [Prod.mk.injEq] at heq
    exact Prod.ext heq.1 (Text.octets_inj.mp heq.2)
  have hread := congrArg readHeader h
  rw [readHeader_header ha, readHeader_header hb] at hread
  exact Table.eq_of_bindings_eq ((List.map_inj_right hinj).mp hread)

/-- Setting an attribute leaves the fields of all others in their places. -/
theorem filter_readHeader_setAll {a : Attributes} (ha : a.IsPlain) {name : String}
    (hname : IsPlainName name) (values : List String) :
    (readHeader (a.setAll name values).header).filter (fun f => f.1 ≠ name) =
      (readHeader a.header).filter fun f => f.1 ≠ name := by
  have hothers : ∀ c : Attributes, c.IsPlain →
      (readHeader c.header).filter (fun f => f.1 ≠ name) =
        (c.table.bindings.filter fun f => f.1 ≠ name).map fun f =>
          (f.1, octets (",".intercalate f.2)) := by
    intro c hc
    rw [readHeader_header hc, joined, Table.map, List.map_map, List.filter_map]
    rfl
  rw [hothers _ (ha.setAll hname values), hothers a ha, setAll, Table.insert, Table.filter_place]

/-- There is no header exactly if nothing is known. What is read of a header are the names with
their joined values, so that two headers are equal exactly if these are; and whatever an attribute
is set to, the fields of all others are read as before. -/
theorem header_identifies {a b : Attributes} (ha : a.IsPlain) (hb : b.IsPlain) :
    (a.header = none ↔ a = empty) ∧
      readHeader a.header = (a.joined.bindings.map fun f => (f.1, octets f.2)) ∧
      (a.header = b.header ↔ ∀ name,
        ((a.getAll name).map fun values => ",".intercalate values) =
          (b.getAll name).map fun values => ",".intercalate values) ∧
      ∀ name values, IsPlainName name →
        (readHeader (a.setAll name values).header).filter (fun f => f.1 ≠ name) =
          (readHeader a.header).filter fun f => f.1 ≠ name := by
  simp only [← get?_joined]
  refine ⟨header_eq_none_iff a, readHeader_header ha, ⟨fun h name => ?_, fun h => ?_⟩,
    fun name values hname => filter_readHeader_setAll ha hname values⟩
  · rw [joined_eq_of_header_eq ha hb h]
  · exact header_congr (Table.eq_of_get?_eq h)

/-- A value that looks like a field of its own: the header is not that of an honest context. -/
theorem header_identifies_forged :
    let forged := empty.setAll "device" ["mobile,country=nz"]
    let honest := (empty.setAll "country" ["nz"]).setAll "device" ["mobile"]
    forged.IsPlain ∧ honest.IsPlain ∧ forged.header ≠ honest.header ∧
      (readHeader forged.header).filter (fun f => f.1 ≠ "device") = [] := by
  intro forged honest
  have hdevice : IsPlainName "device" := by decide
  have hforged : forged.IsPlain := isPlain_empty.setAll hdevice _
  have hhonest : honest.IsPlain := (isPlain_empty.setAll (by decide) _).setAll hdevice _
  refine ⟨hforged, hhonest, fun h => ?_, ?_⟩
  · have hcountry := (header_identifies hforged hhonest).2.2.1.mp h "country"
    exact absurd hcountry (by decide)
  · exact (header_identifies isPlain_empty isPlain_empty).2.2.2 "device" _ hdevice

end FeatureFlags.Attributes
