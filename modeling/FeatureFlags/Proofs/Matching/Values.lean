import FeatureFlags.Context.Attributes
import FeatureFlags.Matching

/-!
# The values of a condition as a set

A condition is told its values as a list. What it makes of a supplied text should depend neither on
their order, nor on repetitions, nor on a `null` beside other values. It does not wherever the
condition asks whether one of its values has some property, and all types but one ask so
(`isSatisfiedBy_of_mem_texts`). Truth values are compared with the first value alone, whatever the
others are.

The main statement says what becomes of an answer when the values are rearranged. It stays the same
unless truth values are compared and the list begins with another truth value than before. So a
condition on truth values keeps all its answers, however it is rearranged, exactly if none of its
values stands for the truth.
-/

set_option autoImplicit false

namespace FeatureFlags

/-! ### Lists with the same members -/

section Members

variable {α : Type} {xs ys : List α} (h : ∀ x, x ∈ ys ↔ x ∈ xs)

include h

/-- Whether something has a property depends on the members only. -/
theorem any_of_mem_iff (p : α → Bool) : ys.any p = xs.any p := by
  simp only [List.any_eq, h]

/-- What is read from a list depends on the members only. -/
theorem mem_filterMap_of_mem_iff {β : Type} (f : α → Option β) (y : β) :
    y ∈ ys.filterMap f ↔ y ∈ xs.filterMap f := by
  simp only [List.mem_filterMap, h]

/-- A comparison depends on the members of the list only. -/
theorem Conditional.compared?_of_mem_iff (k : Conditional) (order : α → Ordering) :
    k.compared? order ys = k.compared? order xs := by
  simp only [Conditional.compared?, any_of_mem_iff h]

end Members

/-- A search depends on the members of the list only. -/
theorem Conditional.searched?_of_mem_iff {xs ys : List String} (h : ∀ t, t ∈ ys ↔ t ∈ xs)
    (k : Conditional) (supplied : String) : k.searched? supplied ys = k.searched? supplied xs := by
  unfold Conditional.searched?
  simp only [any_of_mem_iff h]

namespace Condition

open Text

/-- The same condition with other values. -/
def withValues (c : Condition) (values : List Json) : Condition := { c with values := values }

/-- Other values leave the conditional as it is. -/
@[simp] theorem conditional_withValues (c : Condition) (values : List Json) :
    (c.withValues values).conditional = c.conditional := rfl

/-- Other values leave the type as it is. -/
@[simp] theorem fieldType_withValues (c : Condition) (values : List Json) :
    (c.withValues values).fieldType = c.fieldType := rfl

/-- A list of values and what it is rearranged to: it is put into another order, one of its values
is repeated, or `null` is added although there is something else. -/
inductive Rearranged : List Json → List Json → Prop
  /-- The values are put into another order. -/
  | permute {xs ys : List Json} (h : xs.Perm ys) : Rearranged xs ys
  /-- A value is repeated. -/
  | duplicate {xs : List Json} {v : Json} (h : v ∈ xs) : Rearranged xs (v :: xs)
  /-- `null` is added to other values. -/
  | addNull {xs : List Json} {v : Json} (h : v ∈ xs) (hv : v.isNull = false) :
    Rearranged xs (.null :: xs)
  /-- One after the other. -/
  | trans {xs ys zs : List Json} (h : Rearranged xs ys) (h' : Rearranged ys zs) : Rearranged xs zs

namespace Rearranged

variable {xs ys : List Json}

/-- The values that are not `null` stay the same. -/
theorem mem_iff (h : Rearranged xs ys) {v : Json} (hv : v.isNull = false) : v ∈ ys ↔ v ∈ xs := by
  induction h with
  | permute hperm => exact hperm.mem_iff.symm
  | duplicate hmem => exact ⟨fun hv' => (List.mem_cons.mp hv').elim (· ▸ hmem) id,
      List.mem_cons_of_mem _⟩
  | addNull =>
    refine ⟨fun hmem => (List.mem_cons.mp hmem).resolve_left ?_, List.mem_cons_of_mem _⟩
    rintro rfl
    exact nomatch hv
  | trans _ _ ih ih' => exact ih'.trans ih

/-- A rearrangement is empty only if the list is. -/
theorem eq_nil_iff (h : Rearranged xs ys) : ys = [] ↔ xs = [] := by
  induction h with
  | permute hperm =>
    exact ⟨fun hnil => (hnil ▸ hperm).eq_nil, fun hnil => (hnil ▸ hperm).symm.eq_nil⟩
  | duplicate hmem | addNull hmem =>
    exact iff_of_false (List.cons_ne_nil _ _) (List.ne_nil_of_mem hmem)
  | trans _ _ ih ih' => exact ih'.trans ih

/-- `null` has no text, so that the texts stay the same. -/
theorem mem_texts_iff (h : Rearranged xs ys) (t : String) :
    t ∈ ys.filterMap Json.conditionText? ↔ t ∈ xs.filterMap Json.conditionText? := by
  have hvalue : ∀ v : Json, v.conditionText? = some t → (v ∈ ys ↔ v ∈ xs) := by
    intro v ht
    refine h.mem_iff ?_
    cases v with
    | null => exact nomatch ht
    | _ => rfl
  simp only [List.mem_filterMap]
  exact exists_congr fun v => and_congr_left (hvalue v)

end Rearranged

/-! ### Types that look for a value -/

section Texts

variable {c d : Condition} (hk : d.conditional = c.conditional)
  (h : ∀ t, t ∈ d.texts ↔ t ∈ c.texts) (supplied : String)

include hk h

/-- Whether a text matches depends on the texts of the condition only. -/
theorem matchesText_of_mem_texts : d.matchesText supplied = c.matchesText supplied := by
  unfold matchesText
  rw [hk, c.conditional.compared?_of_mem_iff h, c.conditional.searched?_of_mem_iff h]

/-- Whether something that is read matches depends on the texts of the condition only. -/
theorem matchesRead_of_mem_texts {α : Type} (read : String → Option α)
    (order : α → α → Ordering) :
    d.matchesRead read order supplied = c.matchesRead read order supplied := by
  unfold matchesRead
  simp only [hk, Conditional.searched?_of_mem_iff h,
    Conditional.compared?_of_mem_iff (mem_filterMap_of_mem_iff h read)]

/-- Whether a network matches depends on the texts of the condition only. -/
theorem matchesNetwork_of_mem_texts : d.matchesNetwork supplied = c.matchesNetwork supplied := by
  unfold matchesNetwork
  simp only [hk, any_of_mem_iff (mem_filterMap_of_mem_iff h IpNetwork.ofText?)]

/-- Unless they are truth values, only the texts of the values matter, and of these only which there
are. -/
theorem isSatisfiedBy_of_mem_texts (htype : d.fieldType = c.fieldType)
    (hother : c.fieldType ≠ .boolean) : d.isSatisfiedBy supplied = c.isSatisfiedBy supplied := by
  unfold isSatisfiedBy
  rw [htype]
  cases hc : c.fieldType with
  | string | date | datetime => exact matchesText_of_mem_texts hk h supplied
  | number | semanticVersion => exact matchesRead_of_mem_texts hk h supplied _ _
  | boolean => exact absurd hc hother
  | ipAddress => exact matchesNetwork_of_mem_texts hk h supplied
  | unknown => rfl

end Texts

/-! ### Truth values -/

/-- Whether a condition compares truth values. -/
def ComparesTruth (c : Condition) : Prop :=
  c.fieldType = .boolean ∧ (c.conditional = .equals ∨ c.conditional = .notEquals)

/-- The truth value that the first of some values stands for. -/
def firstTruth? (values : List Json) : Option Bool := values.head?.map expectedTruth

/-- Only no values have no first truth value. -/
theorem firstTruth?_eq_none_iff (values : List Json) : firstTruth? values = none ↔ values = [] := by
  simp [firstTruth?]

/-- Where no value stands for the truth the first does not either. -/
theorem firstTruth?_of_untrue {values : List Json} (h : ∀ v ∈ values, expectedTruth v = false)
    (hne : values ≠ []) : firstTruth? values = some false := by
  obtain ⟨v, rest, rfl⟩ := List.exists_cons_of_ne_nil hne
  exact congrArg some (h v List.mem_cons_self)

section Truth

variable {c : Condition} (supplied : String)

/-- A condition for equality compares with the first truth value. -/
theorem matchesTruth_of_equals (h : c.conditional = .equals) :
    c.matchesTruth supplied =
      (firstTruth? c.values).any (sameLetters supplied "true" == ·) := by
  unfold matchesTruth firstTruth?
  rw [h]
  cases c.values <;> rfl

/-- A condition for difference compares with the first truth value. -/
theorem matchesTruth_of_notEquals (h : c.conditional = .notEquals) :
    c.matchesTruth supplied =
      (firstTruth? c.values).any (sameLetters supplied "true" != ·) := by
  unfold matchesTruth firstTruth?
  rw [h]
  cases c.values <;> rfl

/-- No other condition on truth values is satisfied. -/
theorem matchesTruth_of_other (h : ¬ (c.conditional = .equals ∨ c.conditional = .notEquals)) :
    c.matchesTruth supplied = false := by
  rw [not_or] at h
  unfold matchesTruth
  split
  · next hk => exact absurd hk h.1
  · next hk => exact absurd hk h.2
  · rfl

/-- A test that tells the truth values apart tells apart which of them is there. -/
theorem any_eq_any_iff {x y : Option Bool} (hnone : x = none ↔ y = none) {p : Bool → Bool}
    (hp : p true ≠ p false) : x.any p = y.any p ↔ x = y := by
  cases x with
  | none => simp [hnone.mp rfl]
  | some a =>
    cases y with
    | none => exact absurd (hnone.mpr rfl) (Option.some_ne_none a)
    | some b => cases a <;> cases b <;> simp [hp, hp.symm]

/-- Lists of values of which both or neither is empty are compared alike exactly if they begin with
the same truth value. -/
theorem matchesTruth_withValues_iff {values : List Json} (hnil : values = [] ↔ c.values = [])
    (h : c.conditional = .equals ∨ c.conditional = .notEquals) :
    (c.withValues values).matchesTruth supplied = c.matchesTruth supplied ↔
      firstTruth? values = firstTruth? c.values := by
  have hnone : firstTruth? values = none ↔ firstTruth? c.values = none := by
    rw [firstTruth?_eq_none_iff, firstTruth?_eq_none_iff, hnil]
  rcases h with hk | hk
  · rw [matchesTruth_of_equals supplied hk,
      matchesTruth_of_equals (c := c.withValues values) supplied hk]
    exact any_eq_any_iff hnone (by simp)
  · rw [matchesTruth_of_notEquals supplied hk,
      matchesTruth_of_notEquals (c := c.withValues values) supplied hk]
    exact any_eq_any_iff hnone (by simp)

end Truth

/-! ### Rearranged values -/

section Rearranged

variable {c : Condition} {values : List Json}

/-- When the values of a condition are rearranged, an answer changes exactly if truth values are
compared and another one comes first. -/
theorem isSatisfiedBy_withValues_iff (h : Rearranged c.values values) (supplied : String) :
    (c.withValues values).isSatisfiedBy supplied = c.isSatisfiedBy supplied ↔
      (c.ComparesTruth → firstTruth? values = firstTruth? c.values) := by
  by_cases htype : c.fieldType = .boolean
  · have hmatches : ∀ d : Condition, d.fieldType = .boolean →
        d.isSatisfiedBy supplied = d.matchesTruth supplied := by
      intro d hd
      unfold isSatisfiedBy
      rw [hd]
    rw [hmatches c htype, hmatches (c.withValues values) htype]
    by_cases hk : c.conditional = .equals ∨ c.conditional = .notEquals
    · rw [matchesTruth_withValues_iff supplied h.eq_nil_iff hk]
      exact ⟨fun hfirst _ => hfirst, fun hfirst => hfirst ⟨htype, hk⟩⟩
    · refine iff_of_true ?_ fun htruth => absurd htruth.2 hk
      rw [matchesTruth_of_other supplied hk,
        matchesTruth_of_other (c := c.withValues values) supplied hk]
  · refine iff_of_true ?_ fun htruth => absurd htruth.1 htype
    exact isSatisfiedBy_of_mem_texts (c.conditional_withValues values) h.mem_texts_iff supplied
      (c.fieldType_withValues values) htype

/-- Values none of which stands for the truth begin with the same truth value when they are
rearranged. -/
theorem firstTruth?_of_rearranged (h : Rearranged c.values values)
    (huntrue : ∀ v ∈ c.values, expectedTruth v = false) :
    firstTruth? values = firstTruth? c.values := by
  by_cases hnil : c.values = []
  · rw [hnil, h.eq_nil_iff.mpr hnil]
  · have hother : ∀ v ∈ values, expectedTruth v = false := by
      intro v hv
      cases hnull : v.isNull with
      | false => exact huntrue v ((h.mem_iff hnull).mp hv)
      | true =>
        cases v with
        | null => rfl
        | _ => exact nomatch hnull
    rw [firstTruth?_of_untrue huntrue hnil,
      firstTruth?_of_untrue hother (mt h.eq_nil_iff.mp hnil)]

/-- A value that stands for the truth can be put first, and so can `null`, which does not. -/
theorem exists_rearranged_of_true {v : Json} (hv : v ∈ c.values) (htrue : expectedTruth v = true) :
    ∃ xs ys, Rearranged c.values xs ∧ Rearranged c.values ys ∧
      firstTruth? xs ≠ firstTruth? ys := by
  have hnull : v.isNull = false := by
    cases v with
    | null => exact nomatch htrue
    | _ => rfl
  refine ⟨v :: c.values, .null :: c.values, .duplicate hv, .addNull hv hnull, fun hsame => ?_⟩
  have htruth : expectedTruth v = expectedTruth .null := Option.some.inj hsame
  exact Bool.false_ne_true (htruth.symm.trans htrue)

end Rearranged

/-- When the values of a condition are put into another order, repeated, or joined by `null`, an
answer changes exactly if truth values are compared and another one comes first. So a condition has
the same answers for all arrangements of its values exactly if it does not compare truth values, or
none of its values stands for the truth. -/
theorem keeps_answers_iff (c : Condition) :
    (∀ values, Rearranged c.values values → ∀ supplied,
      ((c.withValues values).isSatisfiedBy supplied = c.isSatisfiedBy supplied ↔
        (c.ComparesTruth → firstTruth? values = firstTruth? c.values))) ∧
      ((∀ values, Rearranged c.values values → ∀ supplied,
          (c.withValues values).isSatisfiedBy supplied = c.isSatisfiedBy supplied) ↔
        (c.ComparesTruth → ∀ v ∈ c.values, expectedTruth v = false)) := by
  refine ⟨fun values h => isSatisfiedBy_withValues_iff h, fun hsame htruth v hv => ?_,
    fun huntrue values h supplied => ?_⟩
  · have hfirst : ∀ values, Rearranged c.values values →
        firstTruth? values = firstTruth? c.values := fun values h =>
      (isSatisfiedBy_withValues_iff h "").mp (hsame values h "") htruth
    cases htrue : expectedTruth v with
    | false => rfl
    | true =>
      obtain ⟨xs, ys, hxs, hys, hne⟩ := exists_rearranged_of_true hv htrue
      exact absurd ((hfirst xs hxs).trans (hfirst ys hys).symm) hne
  · exact (isSatisfiedBy_withValues_iff h supplied).mpr fun htruth =>
      firstTruth?_of_rearranged h (huntrue htruth)

/-- Two countries in the other order, one of them twice, and `null`. -/
theorem keeps_answers_countries :
    let c : Condition :=
      ⟨.notEquals, Attributes.country, [.string "nz", .string "au"], .string⟩
    let values : List Json := [.null, .string "au", .string "au", .string "nz"]
    Rearranged c.values values ∧ c.isSatisfiedBy "au" = false ∧
      (c.withValues values).isSatisfiedBy "au" = false ∧ c.isSatisfiedBy "us" = true ∧
      (c.withValues values).isSatisfiedBy "us" = true := by
  intro c values
  have h : Rearranged c.values values :=
    .trans (.permute (.swap (Json.string "au") (Json.string "nz") []))
      (.trans (.duplicate List.mem_cons_self) (.addNull List.mem_cons_self rfl))
  have hau : c.isSatisfiedBy "au" = false := by decide +kernel
  have hus : c.isSatisfiedBy "us" = true := by decide +kernel
  have hsame := (keeps_answers_iff c).2.mpr (fun htruth => nomatch htruth.1) values h
  exact ⟨h, hau, (hsame "au").trans hau, hus, (hsame "us").trans hus⟩

/-- `null` before the truth, and the truth behind its contrary, hide it from a condition. -/
theorem first_truth_decides :
    ¬ ∀ (c : Condition) (values : List Json), Rearranged c.values values → ∀ supplied,
      (c.withValues values).isSatisfiedBy supplied = c.isSatisfiedBy supplied := by
  intro h
  have hsame := h ⟨.equals, "beta", [.bool true], .boolean⟩ [.null, .bool true]
    (.addNull List.mem_cons_self rfl) "true"
  exact absurd hsame (by decide +kernel)

end Condition

end FeatureFlags
