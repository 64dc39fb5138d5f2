import FeatureFlags.Proofs.Repository.History
import FeatureFlags.Proofs.Rollout.Selection
import FeatureFlags.Repository.Resolve

/-!
# Where a value comes from

The value of an entry has four possible sources, in this order: an override, nothing at all (if the
entry has no state, or no type, or another type than expected), the first strategy that applies, and
the value that was delivered. `Resolves` lists them as rules, and the main statement says that an
entry resolves to a value exactly if one of the rules gives it. So the rules give every entry one
value. A strategy that applies and has no value ends the matter too.

A locked entry asks only for the overrides that may override locked features. The main statement
says of them that the others, wherever they stand between them, do not matter to it.
-/

set_option autoImplicit false

namespace FeatureFlags

/-! ### Overrides -/

namespace Interceptor

/-- Whether an interceptor may override what an entry holds. -/
def IsPermitted (i : Interceptor) (e : Entry) : Prop :=
  ∀ s, e.state = some s → s.locked = true → i.allowLockOverride = true

/-- Whether a value is the first one that a permitted interceptor has for an entry. -/
def Overrides (interceptors : List Interceptor) (vars : Variables) (e : Entry) (v : Json) : Prop :=
  ∃ before i after, interceptors = before ++ i :: after ∧ i.IsPermitted e ∧
    i.value? vars e.key = some v ∧ ∀ j ∈ before, j.IsPermitted e → j.value? vars e.key = none

/-- Whether no permitted interceptor has a value for an entry. -/
def LeavesAlone (interceptors : List Interceptor) (vars : Variables) (e : Entry) : Prop :=
  ∀ i ∈ interceptors, i.IsPermitted e → i.value? vars e.key = none

/-- An interceptor may override an entry exactly if it is permitted to. -/
theorem mayOverride_iff (i : Interceptor) (e : Entry) :
    i.mayOverride e.isLocked = true ↔ i.IsPermitted e := by
  unfold mayOverride IsPermitted Entry.isLocked
  cases e.state with
  | none => simp
  | some s => cases hlocked : s.locked <;> simp [hlocked]

/-- To search the permitted interceptors is to search all for a permitted one with a value. -/
theorem find?_eq_findSome? (interceptors : List Interceptor) (vars : Variables) (locked : Bool)
    (key : String) :
    find? interceptors vars locked key =
      interceptors.findSome? fun i => if i.mayOverride locked then i.value? vars key else none := by
  unfold find?
  rw [← List.head?_filterMap, ← List.head?_filterMap, List.filterMap_filter]

variable {interceptors : List Interceptor} {vars : Variables} {e : Entry}

/-- The search for an override finds the value of the first interceptor that has one. -/
theorem find?_eq_some_iff {v : Json} :
    find? interceptors vars e.isLocked e.key = some v ↔ Overrides interceptors vars e v := by
  rw [find?_eq_findSome?, List.findSome?_eq_some_iff]
  simp only [Overrides, Option.ite_none_right_eq_some, ite_eq_right_iff, mayOverride_iff, and_assoc]

/-- The search finds nothing exactly if all interceptors leave the entry alone. -/
theorem find?_eq_none_iff :
    find? interceptors vars e.isLocked e.key = none ↔ LeavesAlone interceptors vars e := by
  rw [find?_eq_findSome?, List.findSome?_eq_none_iff]
  simp only [LeavesAlone, ite_eq_right_iff, mayOverride_iff]

/-- For a locked feature, only those count that may override locked features. -/
theorem find?_of_locked (interceptors : List Interceptor) (vars : Variables) (key : String) :
    find? interceptors vars true key =
      (interceptors.filter allowLockOverride).findSome? fun i => i.value? vars key := rfl

end Interceptor

namespace Repository

/-! ### What was delivered -/

section Delivered

variable (now : Rollout.Moment) (e : Entry) (expected : Option ValueType)
  (context : Option Attributes)

/-- The value that an entry delivers for a context. -/
inductive Delivers : Option Json → Prop
  /-- An entry without a state has no value. -/
  | missing (hs : e.state = none) : Delivers none
  /-- A state without a type has no value. -/
  | untyped {s : FeatureState} (hs : e.state = some s) (ht : s.valueType = none) : Delivers none
  /-- A state of another type than expected has no value. -/
  | mistyped {s : FeatureState} {t u : ValueType} (hs : e.state = some s)
      (ht : s.valueType = some t) (hu : expected = some u) (hne : u ≠ t) : Delivers none
  /-- If there is a context, the first strategy that applies to it says which value it is. -/
  | selected {s : FeatureState} {t : ValueType} {a : Attributes} {i : Nat} {strategy : Strategy}
      (hs : e.state = some s) (ht : s.valueType = some t) (hexpected : ∀ u ∈ expected, u = t)
      (ha : context = some a)
      (h : Rollout.Selects (.shared now) s.id.text a s.strategies i strategy) :
      Delivers strategy.value
  /-- If no strategy applies, it is the value of the state. -/
  | plain {s : FeatureState} {t : ValueType} (hs : e.state = some s) (ht : s.valueType = some t)
      (hexpected : ∀ u ∈ expected, u = t)
      (h : ∀ a ∈ context, ∀ i strategy,
        ¬ Rollout.Selects (.shared now) s.id.text a s.strategies i strategy) :
      Delivers s.value

end Delivered

section Strategies

variable {now : Rollout.Moment} {s : FeatureState} {a : Attributes}

/-- The value is that of the strategy that selects the context. -/
theorem stateValue_of_selects {i : Nat} {strategy : Strategy}
    (h : Rollout.Selects (.shared now) s.id.text a s.strategies i strategy) :
    stateValue now s (some a) = strategy.value := by
  have hchoice := (Rollout.choice_apply_iff ..).mpr h
  simp [stateValue, Rollout.Outcome.isMatched, Rollout.Outcome.value, hchoice]

/-- Where no strategy selects the context the value is that of the state. -/
theorem stateValue_of_not_selects
    (h : ∀ i strategy, ¬ Rollout.Selects (.shared now) s.id.text a s.strategies i strategy) :
    stateValue now s (some a) = s.value := by
  have hchoice : (Rollout.apply (.shared now) s.strategies s.id.text a).choice = none := by
    rw [Option.eq_none_iff_forall_ne_some]
    rintro ⟨i, strategy⟩ hsome
    exact h i strategy ((Rollout.choice_apply_iff ..).mp hsome)
  simp [stateValue, Rollout.Outcome.isMatched, hchoice]

end Strategies

section Rules

variable {now : Rollout.Moment} {e : Entry} {expected : Option ValueType}
  {context : Option Attributes}

/-- What was delivered is given to whoever expects its type or none in particular. -/
theorem deliveredValue_of_state {s : FeatureState} {t : ValueType} (hs : e.state = some s)
    (ht : s.valueType = some t) :
    deliveredValue now e expected context =
      if expected.all (· = t) then stateValue now s context else none := by
  simp [deliveredValue, hs, ht]

/-- A type is expected if it is the expected one, or if none is. -/
theorem isExpected_iff {t : ValueType} :
    expected.all (· = t) = true ↔ ∀ u ∈ expected, u = t := by
  cases expected <;> simp

/-- The rules give nothing but the delivered value. -/
theorem Delivers.eq {v : Option Json} (h : Delivers now e expected context v) :
    deliveredValue now e expected context = v := by
  cases h with
  | missing hs => simp [deliveredValue, hs]
  | untyped hs ht => simp [deliveredValue, hs, ht]
  | mistyped hs ht hu hne =>
    rw [deliveredValue_of_state hs ht, if_neg]
    rw [isExpected_iff, hu]
    exact fun hall => hne (hall _ rfl)
  | selected hs ht hexpected ha hselects =>
    rw [deliveredValue_of_state hs ht, if_pos (isExpected_iff.mpr hexpected), ha]
    exact stateValue_of_selects hselects
  | plain hs ht hexpected hnone =>
    rw [deliveredValue_of_state hs ht, if_pos (isExpected_iff.mpr hexpected)]
    cases context with
    | none => rfl
    | some a => exact stateValue_of_not_selects (hnone a rfl)

/-- One of the rules gives the delivered value. -/
theorem delivers_deliveredValue :
    Delivers now e expected context (deliveredValue now e expected context) := by
  -- the cases are those of the definition, and a rule for each of them
  have hof : ∀ v, Delivers now e expected context v →
      Delivers now e expected context (deliveredValue now e expected context) := by
    intro v hv
    rw [hv.eq]
    exact hv
  cases hs : e.state with
  | none => exact hof _ (.missing hs)
  | some s =>
    cases ht : s.valueType with
    | none => exact hof _ (.untyped hs ht)
    | some t =>
      by_cases hwrong : ∃ u ∈ expected, u ≠ t
      · obtain ⟨u, hu, hne⟩ := hwrong
        exact hof _ (.mistyped hs ht hu hne)
      · have hexpected : ∀ u ∈ expected, u = t :=
          fun u hu => Decidable.of_not_not fun hne => hwrong ⟨u, hu, hne⟩
        by_cases hselects : ∃ a ∈ context, ∃ i strategy,
            Rollout.Selects (.shared now) s.id.text a s.strategies i strategy
        · obtain ⟨a, ha, i, strategy, h⟩ := hselects
          exact hof _ (.selected hs ht hexpected ha h)
        · refine hof _ (.plain hs ht hexpected fun a ha i strategy h => ?_)
          exact hselects ⟨a, ha, i, strategy, h⟩

/-- The delivered value of an entry is the one that its rules deliver. -/
theorem deliveredValue_eq_iff {v : Option Json} :
    deliveredValue now e expected context = v ↔ Delivers now e expected context v := by
  constructor
  · rintro rfl
    exact delivers_deliveredValue
  · exact Delivers.eq

end Rules

/-! ### What an entry resolves to -/

/-- The value that an entry resolves to: an override comes before what was delivered. -/
inductive Resolves (interceptors : List Interceptor) (vars : Variables) (now : Rollout.Moment)
    (e : Entry) (expected : Option ValueType) (context : Option Attributes) : Option Json → Prop
  /-- The first value that a permitted interceptor has. -/
  | overridden {v : Json} (h : Interceptor.Overrides interceptors vars e v) :
      Resolves interceptors vars now e expected context (some v)
  /-- What was delivered, if no permitted interceptor has a value. -/
  | delivered {v : Option Json} (hnone : Interceptor.LeavesAlone interceptors vars e)
      (h : Delivers now e expected context v) :
      Resolves interceptors vars now e expected context v

/-- An entry resolves to the value that the order of precedence gives. -/
theorem resolve_eq_iff (r : Repository) (vars : Variables) (now : Rollout.Moment) (e : Entry)
    (expected : Option ValueType) (context : Option Attributes) (v : Option Json) :
    r.resolve vars now e expected context = v ↔
      Resolves r.interceptors vars now e expected context v := by
  unfold resolve
  cases hfind : Interceptor.find? r.interceptors vars e.isLocked e.key with
  | none =>
    have hnone := Interceptor.find?_eq_none_iff.mp hfind
    rw [deliveredValue_eq_iff]
    constructor
    · exact .delivered hnone
    · rintro (hsome | ⟨-, h⟩)
      · rw [← Interceptor.find?_eq_some_iff, hfind] at hsome
        exact nomatch hsome
      · exact h
  | some w =>
    constructor
    · rintro rfl
      exact .overridden (Interceptor.find?_eq_some_iff.mp hfind)
    · rintro (hsome | ⟨hnone, -⟩)
      · rw [← Interceptor.find?_eq_some_iff, hfind] at hsome
        exact hsome
      · rw [← Interceptor.find?_eq_none_iff, hfind] at hnone
        exact nomatch hnone

/-- An entry resolves to what the rules give, and to nothing else. What a locked entry resolves to
does not depend on the interceptors that may not override locked features, wherever they stand
between those that may. -/
theorem resolve_by_precedence (vars : Variables) (now : Rollout.Moment) (e : Entry)
    (expected : Option ValueType) (context : Option Attributes) :
    (∀ (r : Repository) v, r.resolve vars now e expected context = v ↔
        Resolves r.interceptors vars now e expected context v) ∧
      ∀ s, e.state = some s → s.locked = true → ∀ r r' : Repository,
        r.interceptors.filter Interceptor.allowLockOverride =
            r'.interceptors.filter Interceptor.allowLockOverride →
          r.resolve vars now e expected context = r'.resolve vars now e expected context := by
  refine ⟨fun r v => resolve_eq_iff r vars now e expected context v,
    fun s hs hlocked r r' hsame => ?_⟩
  have hentry : e.isLocked = true := by
    unfold Entry.isLocked
    rw [hs]
    exact hlocked
  unfold resolve
  rw [hentry, Interceptor.find?_of_locked, Interceptor.find?_of_locked, hsame]

/-- A locked flag between overrides of both kinds. -/
theorem resolve_by_precedence_locked :
    let flag : FeatureState := { sampleFlag 1 "a" 1 with locked := true }
    let r := after [.update flag false]
    let common : Interceptor := .ofValues false [("a", .bool false)]
    let privileged : Interceptor := .ofValues true [("a", .string "forced")]
    let other : Interceptor := .ofValues true [("b", .bool false)]
    let mixed := (((r.intercept common).intercept other).intercept common).intercept privileged
    let guarded := (r.intercept other).intercept privileged
    let now : Rollout.Moment := ⟨"2025-01-01", "2025-01-01T00:00:00Z"⟩
    (r.entry 0).state = some flag ∧ flag.locked = true ∧
      mixed.interceptors.filter Interceptor.allowLockOverride =
        guarded.interceptors.filter Interceptor.allowLockOverride ∧
      mixed.resolve .empty now (r.entry 0) none none =
        guarded.resolve .empty now (r.entry 0) none none ∧
      guarded.resolve .empty now (r.entry 0) none none = some (.string "forced") := by
  intro flag r common privileged other mixed guarded now
  have hstate : (r.entry 0).state = some flag := rfl
  have hsame : mixed.interceptors.filter Interceptor.allowLockOverride =
      guarded.interceptors.filter Interceptor.allowLockOverride := rfl
  obtain ⟨-, himmune⟩ := resolve_by_precedence .empty now (r.entry 0) none none
  exact ⟨hstate, rfl, hsame, himmune flag hstate rfl mixed guarded hsame, rfl⟩

end Repository

end FeatureFlags
