import FeatureFlags.Context.Attributes
import FeatureFlags.Matching

/-!
# Comparisons agree with each other

Texts, dates, points in time, numbers and versions are compared in one way: the supplied text and
the values of the condition are read on a scale, and the conditional says which orders it takes
(`Scale.compares`, `isSatisfiedBy_of_scale?`). So what holds between the conditionals is a matter of
orders and lists, and is said once for all scales. Networks are compared by containment, and four
conditionals apply to them.

The main statement collects the laws. What cannot be read is left out before anything is compared,
the supplied text included: one that cannot be read satisfies neither `equals` nor `notEquals`.
-/

set_option autoImplicit false

namespace FeatureFlags

/-! ### Scales -/

/-- How texts are read and compared. -/
structure Scale where
  /-- What texts are read as. -/
  Value : Type
  /-- The value of a text, if it has one. -/
  read : String → Option Value
  /-- The order of two values, the supplied one first. -/
  order : Value → Value → Ordering

namespace Scale

/-- Whether a supplied text can be read and satisfies a conditional that compares it with others. -/
def compares (scale : Scale) (texts : List String) (supplied : String) (k : Conditional) : Bool :=
  (scale.read supplied).any fun x =>
    (k.compared? (scale.order x) (texts.filterMap scale.read)).getD false

/-- Some value is accepted in one of two ways exactly if one is accepted in the first way, or one in
the second. -/
theorem any_or {α : Type} (p q r : Ordering → Bool) (h : ∀ o, p o = (q o || r o))
    (order : α → Ordering) (values : List α) :
    values.any (fun v => p (order v)) =
      (values.any (fun v => q (order v)) || values.any fun v => r (order v)) := by
  induction values with
  | nil => rfl
  | cons v rest ih =>
    rw [List.any_cons, List.any_cons, List.any_cons, ih, h]
    ac_rfl

variable (scale : Scale) (texts : List String) (supplied : String)

/-- A conditional that accepts what one of two others accepts holds exactly if one of them holds. -/
theorem compares_or {k l m : Conditional} {p q r : Ordering → Bool}
    (hk : k.accepts? = some p) (hl : l.accepts? = some q) (hm : m.accepts? = some r)
    (hplain : ∀ n ∈ [k, l, m], n ≠ .notEquals) (h : ∀ o, p o = (q o || r o)) :
    scale.compares texts supplied k =
      (scale.compares texts supplied l || scale.compares texts supplied m) := by
  simp only [List.forall_mem_cons] at hplain
  obtain ⟨hk', hl', hm', -⟩ := hplain
  unfold compares
  cases scale.read supplied with
  | none => rfl
  | some x =>
    simp only [Option.any_some, Conditional.compared?, hk, hl, hm, Option.map_some,
      Option.getD_some, if_neg hk', if_neg hl', if_neg hm']
    exact any_or p q r h (scale.order x) (texts.filterMap scale.read)

/-- At least is greater or equal. -/
theorem compares_greaterEquals :
    scale.compares texts supplied .greaterEquals =
      (scale.compares texts supplied .greater || scale.compares texts supplied .equals) :=
  scale.compares_or texts supplied rfl rfl rfl (by decide) (by decide)

/-- At most is less or equal. -/
theorem compares_lessEquals :
    scale.compares texts supplied .lessEquals =
      (scale.compares texts supplied .less || scale.compares texts supplied .equals) :=
  scale.compares_or texts supplied rfl rfl rfl (by decide) (by decide)

/-- What is denied is that any of the values is equal. -/
theorem compares_notEquals :
    scale.compares texts supplied .notEquals =
      ((scale.read supplied).isSome && !scale.compares texts supplied .equals) := by
  unfold compares
  cases scale.read supplied <;> rfl

/-- What cannot be read satisfies no comparison. -/
theorem compares_of_unreadable (h : (scale.read supplied).isSome = false) (k : Conditional) :
    scale.compares texts supplied k = false := by
  have hnone : scale.read supplied = none := Option.not_isSome_iff_eq_none.mp (by simp [h])
  unfold compares
  rw [hnone]
  rfl

end Scale

/-- What a value of a condition is read as: nothing for `null` and for what cannot be read. -/
def Json.readAs? {α : Type} (read : String → Option α) (v : Json) : Option α :=
  v.conditionText?.bind read

/-! ### The types that are compared -/

namespace FieldType

/-- The scale on which the values of a type are compared. -/
def scale? : FieldType → Option Scale
  | .string | .date | .datetime => some ⟨String, some, compare⟩
  | .number => some ⟨Binary64, Binary64.ofTrimmed?, Binary64.order⟩
  | .semanticVersion => some ⟨Version, Version.ofText?, Version.order⟩
  | .boolean | .ipAddress | .unknown => none

/-- Whether the values of a type are compared by an order. -/
def isOrdered : FieldType → Bool
  | .string | .date | .datetime | .number | .semanticVersion => true
  | .boolean | .ipAddress | .unknown => false

/-- Whether a text is a value of a type. Every text can stand for a text, a date or a point in
time. -/
def reads : FieldType → String → Bool
  | .string, _ | .date, _ | .datetime, _ => true
  | .number, text => (Binary64.ofTrimmed? text).isSome
  | .semanticVersion, text => (Version.ofText? text).isSome
  | .ipAddress, text => (IpNetwork.ofText? text).isSome
  | .boolean, _ | .unknown, _ => false

/-- Whether a value of a condition can be read. `null` has no text. -/
def isReadable (t : FieldType) (v : Json) : Bool := v.conditionText?.any t.reads

/-- The conditionals that compare values of a type. -/
def comparisons : FieldType → List Conditional
  | .string | .date | .datetime | .number | .semanticVersion =>
    [.equals, .notEquals, .greater, .greaterEquals, .less, .lessEquals]
  | .ipAddress => [.equals, .notEquals, .includes, .excludes]
  | .boolean | .unknown => []

variable {t : FieldType}

/-- Every ordered type has a scale. -/
theorem exists_scale_of_isOrdered (h : t.isOrdered = true) : ∃ scale, t.scale? = some scale := by
  cases t with
  | string | date | datetime | number | semanticVersion => exact ⟨_, rfl⟩
  | boolean | ipAddress | unknown => exact nomatch h

/-- A type reads what its scale reads. -/
theorem reads_of_scale? {scale : Scale} (h : t.scale? = some scale) :
    t.reads = fun text => (scale.read text).isSome := by
  cases t with
  | string | date | datetime | number | semanticVersion =>
    obtain rfl := Option.some.inj h
    rfl
  | boolean | ipAddress | unknown => exact nomatch h

/-- A type with a scale has the six comparisons. -/
theorem comparisons_of_scale? {scale : Scale} (h : t.scale? = some scale) :
    t.comparisons = [.equals, .notEquals, .greater, .greaterEquals, .less, .lessEquals] := by
  cases t with
  | string | date | datetime | number | semanticVersion => rfl
  | boolean | ipAddress | unknown => exact nomatch h

/-- Only ordered values and networks are compared. -/
theorem isOrdered_or_of_mem {k : Conditional} (hk : k ∈ t.comparisons) :
    t.isOrdered = true ∨ t = .ipAddress := by
  cases t with
  | string | date | datetime | number | semanticVersion => exact Or.inl rfl
  | ipAddress => exact Or.inr rfl
  | boolean | unknown => exact nomatch hk

end FieldType

namespace Conditional

variable {k : Conditional} (h : k.accepts?.isSome = true)

include h

/-- No conditional both compares and searches. -/
theorem searched?_of_accepts? (supplied : String) (values : List String) :
    k.searched? supplied values = none := by
  cases k with
  | equals | notEquals | greater | greaterEquals | less | lessEquals => rfl
  | endsWith | startsWith | includes | excludes | regex | unknown => exact nomatch h

/-- A conditional that accepts outcomes of comparisons always decides. -/
theorem compared?_of_accepts? {α : Type} (order : α → Ordering) (values : List α) :
    k.compared? order values = some ((k.compared? order values).getD false) := by
  unfold compared?
  obtain ⟨accepts, haccepts⟩ := Option.isSome_iff_exists.mp h
  rw [haccepts]
  rfl

end Conditional

namespace Condition

/-- The same condition with another conditional. -/
def asking (c : Condition) (k : Conditional) : Condition := { c with conditional := k }

/-- The new conditional is the one that is asked. -/
@[simp] theorem conditional_asking (c : Condition) (k : Conditional) :
    (c.asking k).conditional = k := rfl

/-- Another conditional leaves the type as it is. -/
@[simp] theorem fieldType_asking (c : Condition) (k : Conditional) :
    (c.asking k).fieldType = c.fieldType := rfl

/-- Another conditional leaves the texts as they are. -/
@[simp] theorem texts_asking (c : Condition) (k : Conditional) : (c.asking k).texts = c.texts := rfl

/-! ### Values on a scale -/

section Scales

variable {c : Condition} {k : Conditional} (supplied : String)

/-- Texts are compared on the scale of texts. -/
theorem matchesText_asking (h : k.accepts?.isSome = true) :
    (c.asking k).matchesText supplied =
      Scale.compares ⟨String, some, compare⟩ c.texts supplied k := by
  have hcompared := k.compared?_of_accepts? h (compare supplied) c.texts
  unfold matchesText Scale.compares
  simp only [conditional_asking, texts_asking, List.filterMap_some, Option.any_some]
  rw [hcompared]
  rfl

/-- What is read is compared on the scale that reads it. -/
theorem matchesRead_asking {α : Type} (read : String → Option α) (order : α → α → Ordering)
    (h : k.accepts?.isSome = true) :
    (c.asking k).matchesRead read order supplied =
      Scale.compares ⟨α, read, order⟩ c.texts supplied k := by
  unfold matchesRead Scale.compares
  simp only [conditional_asking, texts_asking, Conditional.searched?_of_accepts? h]
  cases read supplied <;> rfl

/-- A conditional that compares does so on the scale of the type. -/
theorem isSatisfiedBy_of_scale? {scale : Scale} (h : c.fieldType.scale? = some scale)
    (hk : k ∈ c.fieldType.comparisons) :
    (c.asking k).isSatisfiedBy supplied = scale.compares c.texts supplied k := by
  have haccepts : k.accepts?.isSome = true := by
    rw [FieldType.comparisons_of_scale? h] at hk
    simp only [List.mem_cons, List.not_mem_nil, or_false] at hk
    rcases hk with rfl | rfl | rfl | rfl | rfl | rfl <;> rfl
  unfold isSatisfiedBy
  rw [fieldType_asking]
  cases htype : c.fieldType with
  | string | date | datetime =>
    rw [htype] at h
    obtain rfl := Option.some.inj h
    exact matchesText_asking supplied haccepts
  | number | semanticVersion =>
    rw [htype] at h
    obtain rfl := Option.some.inj h
    exact matchesRead_asking supplied _ _ haccepts
  | boolean | ipAddress | unknown =>
    rw [htype] at h
    exact nomatch h

end Scales

/-! ### Networks -/

section Networks

/-- Whether a supplied text is a network inside one of the networks of a condition. -/
def isInside (c : Condition) (supplied : String) : Bool :=
  (IpNetwork.ofText? supplied).any fun inner =>
    (c.texts.filterMap IpNetwork.ofText?).any fun outer => outer.contains inner

variable {c : Condition} (h : c.fieldType = .ipAddress) (supplied : String)

include h

/-- A condition on networks is satisfied as networks are matched. -/
theorem isSatisfiedBy_of_ipAddress (k : Conditional) :
    (c.asking k).isSatisfiedBy supplied = (c.asking k).matchesNetwork supplied := by
  unfold isSatisfiedBy
  rw [fieldType_asking, h]

/-- To be equal to a network or included in it is to be inside. -/
theorem isSatisfiedBy_inside {k : Conditional} (hk : k = .equals ∨ k = .includes) :
    (c.asking k).isSatisfiedBy supplied = c.isInside supplied := by
  rw [isSatisfiedBy_of_ipAddress h]
  unfold matchesNetwork isInside
  rcases hk with rfl | rfl <;> cases IpNetwork.ofText? supplied <;> rfl

/-- To be different from all networks or excluded from them is to be a network outside. -/
theorem isSatisfiedBy_outside {k : Conditional} (hk : k = .notEquals ∨ k = .excludes) :
    (c.asking k).isSatisfiedBy supplied =
      ((IpNetwork.ofText? supplied).isSome && !c.isInside supplied) := by
  rw [isSatisfiedBy_of_ipAddress h]
  unfold matchesNetwork isInside
  rcases hk with rfl | rfl <;> cases IpNetwork.ofText? supplied <;> rfl

end Networks

/-! ### Values that cannot be read -/

section Unreadable

variable {α : Type} {read : String → Option α} {t : FieldType}

/-- A value can be read exactly if it is read as something. -/
theorem isReadable_eq_isSome (h : t.reads = fun text => (read text).isSome) (v : Json) :
    t.isReadable v = (v.readAs? read).isSome := by
  simp only [FieldType.isReadable, h, Json.readAs?]
  cases v.conditionText? <;> rfl

/-- Values that cannot be read can be left out before reading. -/
theorem filterMap_filter_isReadable (h : t.reads = fun text => (read text).isSome)
    (values : List Json) :
    (values.filter t.isReadable).filterMap (Json.readAs? read) =
      values.filterMap (Json.readAs? read) := by
  have hread : (fun v => if t.isReadable v = true then v.readAs? read else none) =
      Json.readAs? read := by
    funext v
    rw [isReadable_eq_isSome h]
    cases v.readAs? read <;> rfl
  rw [List.filterMap_filter, hread]

/-- Reading the texts of a condition is reading its values. -/
theorem filterMap_texts (c : Condition) :
    c.texts.filterMap read = c.values.filterMap (Json.readAs? read) :=
  List.filterMap_filterMap

/-- Two conditions with the same readable values have the same values after they were read. -/
theorem read_texts_congr {c d : Condition} (h : t.reads = fun text => (read text).isSome)
    (hvalues : d.values.filter t.isReadable = c.values.filter t.isReadable) :
    d.texts.filterMap read = c.texts.filterMap read := by
  rw [filterMap_texts, filterMap_texts, ← filterMap_filter_isReadable h, hvalues,
    filterMap_filter_isReadable h]

end Unreadable

/-! ### The laws -/

section Laws

variable {c : Condition} (supplied : String)

/-- What can be read is different exactly if it is not equal. -/
theorem notEquals_eq (h : c.fieldType.isOrdered = true ∨ c.fieldType = .ipAddress) :
    (c.asking .notEquals).isSatisfiedBy supplied =
      (c.fieldType.reads supplied && !(c.asking .equals).isSatisfiedBy supplied) := by
  rcases h with hordered | hip
  · obtain ⟨scale, hscale⟩ := FieldType.exists_scale_of_isOrdered hordered
    have hall := FieldType.comparisons_of_scale? hscale
    rw [isSatisfiedBy_of_scale? supplied hscale (by simp [hall]),
      isSatisfiedBy_of_scale? supplied hscale (by simp [hall]), FieldType.reads_of_scale? hscale]
    exact scale.compares_notEquals c.texts supplied
  · rw [isSatisfiedBy_outside hip supplied (Or.inl rfl),
      isSatisfiedBy_inside hip supplied (Or.inl rfl), hip]
    rfl

/-- What cannot be read equals nothing. -/
theorem equals_of_unreadable (h : c.fieldType.isOrdered = true ∨ c.fieldType = .ipAddress)
    (hread : c.fieldType.reads supplied = false) :
    (c.asking .equals).isSatisfiedBy supplied = false := by
  rcases h with hordered | hip
  · obtain ⟨scale, hscale⟩ := FieldType.exists_scale_of_isOrdered hordered
    have hall := FieldType.comparisons_of_scale? hscale
    rw [FieldType.reads_of_scale? hscale] at hread
    rw [isSatisfiedBy_of_scale? supplied hscale (by simp [hall])]
    exact scale.compares_of_unreadable c.texts supplied hread _
  · rw [hip] at hread
    have hnone : IpNetwork.ofText? supplied = none :=
      Option.not_isSome_iff_eq_none.mp (Bool.not_eq_true _ ▸ hread)
    rw [isSatisfiedBy_inside hip supplied (Or.inl rfl)]
    unfold isInside
    rw [hnone]
    rfl

/-- Values that cannot be read do not matter to any conditional that compares. -/
theorem isSatisfiedBy_congr {d : Condition} (htype : d.fieldType = c.fieldType)
    (hvalues : d.values.filter c.fieldType.isReadable = c.values.filter c.fieldType.isReadable)
    {k : Conditional} (hk : k ∈ c.fieldType.comparisons) :
    (d.asking k).isSatisfiedBy supplied = (c.asking k).isSatisfiedBy supplied := by
  rcases FieldType.isOrdered_or_of_mem hk with hordered | hip
  · obtain ⟨scale, hscale⟩ := FieldType.exists_scale_of_isOrdered hordered
    have htexts := read_texts_congr (FieldType.reads_of_scale? hscale) hvalues
    rw [isSatisfiedBy_of_scale? supplied hscale hk,
      isSatisfiedBy_of_scale? supplied (htype ▸ hscale) (htype ▸ hk)]
    unfold Scale.compares
    rw [htexts]
  · have hip' : d.fieldType = .ipAddress := htype.trans hip
    have htexts : d.texts.filterMap IpNetwork.ofText? = c.texts.filterMap IpNetwork.ofText? := by
      rw [hip] at hvalues
      exact read_texts_congr rfl hvalues
    rw [isSatisfiedBy_of_ipAddress hip, isSatisfiedBy_of_ipAddress hip']
    unfold matchesNetwork
    simp only [conditional_asking, texts_asking, htexts]

end Laws

/-- The comparisons of a type agree with each other, whatever is supplied and whatever values a
condition has. Among ordered values, to be at least one of them is to be greater or equal, and to be
at most one of them is to be less or equal. To be equal to none is the denial of being equal to one,
for all that can be read, and what cannot be read is neither. Networks are included exactly if they
are equal, and excluded exactly if they are not. Values that cannot be read do not matter. -/
theorem comparisons_coherent (c : Condition) (supplied : String) :
    let holds := fun k => (c.asking k).isSatisfiedBy supplied
    (c.fieldType.isOrdered = true →
        holds .greaterEquals = (holds .greater || holds .equals) ∧
          holds .lessEquals = (holds .less || holds .equals)) ∧
      (c.fieldType.isOrdered = true ∨ c.fieldType = .ipAddress →
        (c.fieldType.reads supplied = true → holds .notEquals = !holds .equals) ∧
          (c.fieldType.reads supplied = false →
            holds .equals = false ∧ holds .notEquals = false)) ∧
      (c.fieldType = .ipAddress →
        holds .includes = holds .equals ∧ holds .excludes = holds .notEquals) ∧
      ∀ d : Condition, d.fieldType = c.fieldType →
        d.values.filter c.fieldType.isReadable = c.values.filter c.fieldType.isReadable →
          ∀ k ∈ c.fieldType.comparisons, (d.asking k).isSatisfiedBy supplied = holds k := by
  intro holds
  refine ⟨fun hordered => ?_, fun h => ⟨fun hread => ?_, fun hread => ⟨?_, ?_⟩⟩,
    fun hip => ⟨?_, ?_⟩, fun d htype hvalues k hk => ?_⟩
  · obtain ⟨scale, hscale⟩ := FieldType.exists_scale_of_isOrdered hordered
    have hscaled : ∀ k ∈ c.fieldType.comparisons, holds k = scale.compares c.texts supplied k :=
      fun k hk => isSatisfiedBy_of_scale? supplied hscale hk
    simp only [FieldType.comparisons_of_scale? hscale, List.forall_mem_cons] at hscaled
    obtain ⟨hequals, -, hgreater, hgreaterEquals, hless, hlessEquals, -⟩ := hscaled
    rw [hequals, hgreater, hgreaterEquals, hless, hlessEquals]
    exact ⟨scale.compares_greaterEquals c.texts supplied,
      scale.compares_lessEquals c.texts supplied⟩
  · exact (notEquals_eq supplied h).trans (by rw [hread, Bool.true_and])
  · exact equals_of_unreadable supplied h hread
  · exact (notEquals_eq supplied h).trans (by rw [hread, Bool.false_and])
  · exact (isSatisfiedBy_inside hip supplied (Or.inr rfl)).trans
      (isSatisfiedBy_inside hip supplied (Or.inl rfl)).symm
  · exact (isSatisfiedBy_outside hip supplied (Or.inr rfl)).trans
      (isSatisfiedBy_outside hip supplied (Or.inl rfl)).symm
  · exact isSatisfiedBy_congr supplied htype hvalues hk

/-- A version in full, and values of which only two are versions. -/
theorem comparisons_coherent_versions :
    let c : Condition :=
      ⟨.equals, Attributes.version, [.null, .string "2.1", .string "x", .string "v3"],
        .semanticVersion⟩
    let d : Condition := { c with values := [.string "2.1", .string "v3"] }
    c.fieldType.isOrdered = true ∧ c.fieldType.reads "2.1.0" = true ∧
      d.values.filter c.fieldType.isReadable = c.values.filter c.fieldType.isReadable ∧
      (c.asking .equals).isSatisfiedBy "2.1.0" = true ∧
      (c.asking .notEquals).isSatisfiedBy "2.1.0" = false ∧
      (c.asking .greaterEquals).isSatisfiedBy "2.1.0" = true ∧
      (d.asking .notEquals).isSatisfiedBy "2.1.0" = false := by
  intro c d
  have hreads : c.fieldType.reads "2.1.0" = true := by decide +kernel
  have hvalues : d.values.filter c.fieldType.isReadable =
      c.values.filter c.fieldType.isReadable := rfl
  have hequals : (c.asking .equals).isSatisfiedBy "2.1.0" = true := by decide +kernel
  obtain ⟨hordered, hdenied, -, hsame⟩ := comparisons_coherent c "2.1.0"
  have hnotEquals : (c.asking .notEquals).isSatisfiedBy "2.1.0" = false :=
    ((hdenied (Or.inl rfl)).1 hreads).trans (by simp [hequals])
  have hgreaterEquals : (c.asking .greaterEquals).isSatisfiedBy "2.1.0" = true :=
    (hordered rfl).1.trans (by simp [hequals])
  have hother := hsame d rfl hvalues .notEquals (by decide)
  exact ⟨rfl, hreads, hvalues, hequals, hnotEquals, hgreaterEquals, hother.trans hnotEquals⟩

end Condition

end FeatureFlags
