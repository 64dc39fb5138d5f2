import FeatureFlags.Proofs.Rollout.Selection

/-!
# Conditions of an unknown kind

A condition whose comparison or whose type is not known here is satisfied by no value, whatever
values it asks for (`isSatisfiedBy_of_isUnknown`). But a value is looked at only where there is one:
a condition that asks for nothing holds in every context that supplies nothing for its field, and
this is settled before anybody asks for the kind of the condition.

The main statement is that there is no other gap. A condition of an unknown kind keeps all
strategies that have it from being selected exactly if it asks for values or the context supplies
some.
-/

set_option autoImplicit false

namespace FeatureFlags

namespace Condition

/-- Whether the comparison or the type of a condition is not known here. -/
def IsUnknown (c : Condition) : Prop := c.conditional = .unknown ∨ c.fieldType = .unknown

section Comparison

variable {c : Condition} (h : c.conditional = .unknown) (supplied : String)

include h

/-- A comparison that is not known decides nothing. -/
theorem compared?_of_unknown {α : Type} (order : α → Ordering) (values : List α) :
    c.conditional.compared? order values = none := by
  rw [h]
  rfl

/-- A search that is not known decides nothing. -/
theorem searched?_of_unknown (values : List String) :
    c.conditional.searched? supplied values = none := by
  rw [h]
  rfl

/-- No text matches by a comparison that is not known. -/
theorem matchesText_of_unknown : c.matchesText supplied = false := by
  unfold matchesText
  rw [compared?_of_unknown h, searched?_of_unknown h]
  rfl

/-- Nothing that is read matches by a comparison that is not known. -/
theorem matchesRead_of_unknown {α : Type} (read : String → Option α) (order : α → α → Ordering) :
    c.matchesRead read order supplied = false := by
  unfold matchesRead
  rw [searched?_of_unknown h]
  cases read supplied with
  | none => rfl
  | some x => simp only [compared?_of_unknown h, Option.getD_none]

/-- No truth value matches by a comparison that is not known. -/
theorem matchesTruth_of_unknown : c.matchesTruth supplied = false := by
  unfold matchesTruth
  rw [h]
  cases c.values <;> rfl

/-- No network matches by a comparison that is not known. -/
theorem matchesNetwork_of_unknown : c.matchesNetwork supplied = false := by
  unfold matchesNetwork
  rw [h]
  cases IpNetwork.ofText? supplied <;> rfl

end Comparison

/-- No supplied text satisfies a condition with something unknown. -/
theorem isSatisfiedBy_of_isUnknown {c : Condition} (h : c.IsUnknown) (supplied : String) :
    c.isSatisfiedBy supplied = false := by
  unfold isSatisfiedBy
  rcases h with hconditional | htype
  · cases c.fieldType with
    | string | date | datetime => exact matchesText_of_unknown hconditional supplied
    | number | semanticVersion => exact matchesRead_of_unknown hconditional supplied _ _
    | boolean => exact matchesTruth_of_unknown hconditional supplied
    | ipAddress => exact matchesNetwork_of_unknown hconditional supplied
    | unknown => rfl
  · rw [htype]

end Condition

namespace Rollout

/-- A condition of an unknown kind holds only where there is nothing to compare. -/
theorem conditionHolds_iff_of_isUnknown {c : Condition} (h : c.IsUnknown) (now : Moment)
    (context : Attributes) :
    conditionHolds now context c = true ↔ c.values = [] ∧ supplied now context c = [] := by
  have hnone : (supplied now context c).any c.isSatisfiedBy = false := by
    rw [List.any_eq_false]
    intro value _
    rw [Condition.isSatisfiedBy_of_isUnknown h]
    exact Bool.false_ne_true
  unfold conditionHolds
  simp only [hnone]
  cases supplied now context c <;> cases c.values <;> simp

/-- All conditions of the strategy that was chosen hold. -/
theorem conditionHolds_of_choice {setting : Setting} {strategies : List Strategy}
    {featureId : String} {context : Attributes} {i : Nat} {s : Strategy}
    (h : (apply setting strategies featureId context).choice = some ⟨i, s⟩) :
    ∀ c ∈ s.conditions, conditionHolds setting.now context c = true :=
  ((choice_apply_iff setting strategies featureId context i s).mp h).2.1.2

/-- A strategy with one condition and without a share is chosen if the condition holds. -/
theorem choice_apply_singleton {setting : Setting} {context : Attributes} {c : Condition}
    (h : conditionHolds setting.now context c = true) (featureId : String) :
    let s : Strategy := ⟨none, none, [], none, [c]⟩
    (apply setting [s] featureId context).choice = some ⟨0, s⟩ := by
  intro s
  refine (choice_apply_iff setting [s] featureId context 0 s).mpr ⟨rfl, ⟨?_, ?_⟩, ?_⟩
  · exact List.cons_ne_nil c []
  · intro c' hc'
    rw [List.mem_singleton.mp hc']
    exact h
  · intro j _ hj
    exact absurd hj (Nat.not_lt_zero j)

/-- A condition of an unknown kind keeps every strategy that has it from being selected, whatever
the other strategies, the feature and its buckets are, exactly if the condition asks for values or
the context supplies some. -/
theorem never_selected_iff {c : Condition} (h : c.IsUnknown) (now : Moment)
    (context : Attributes) :
    (∀ (bucket : String → String → UInt32) (strategies : List Strategy) (featureId : String)
        (i : Nat) (s : Strategy), c ∈ s.conditions →
        (apply ⟨bucket, now⟩ strategies featureId context).choice ≠ some ⟨i, s⟩) ↔
      c.values ≠ [] ∨ supplied now context c ≠ [] := by
  rw [← not_and_or, ← conditionHolds_iff_of_isUnknown h now context]
  constructor
  · intro hnever hholds
    -- where the condition holds, a strategy that has no other one is selected
    exact hnever (fun _ _ => 0) _ "" 0 _ (List.mem_singleton.mpr rfl)
      (choice_apply_singleton hholds "")
  · intro hfails bucket strategies featureId i s hc hchoice
    exact hfails (conditionHolds_of_choice hchoice c hc)

/-- A context that has nothing to do with the field of an unknown comparison. -/
theorem never_selected_for_other_field :
    let c : Condition := ⟨.unknown, "mood", [.string "calm"], .string⟩
    let now : Moment := ⟨"2025-01-01", "2025-01-01T00:00:00Z"⟩
    let context : Attributes := Attributes.empty.set Attributes.country "new_zealand"
    c.IsUnknown ∧ ∀ (bucket : String → String → UInt32) (strategies : List Strategy)
      (featureId : String) (i : Nat) (s : Strategy), c ∈ s.conditions →
        (apply ⟨bucket, now⟩ strategies featureId context).choice ≠ some ⟨i, s⟩ := by
  intro c now context
  have hc : c.IsUnknown := Or.inl rfl
  exact ⟨hc, (never_selected_iff hc now context).mpr (Or.inl (List.cons_ne_nil _ _))⟩

/-- An unknown comparison that asks for nothing lets a context without its field pass. -/
theorem unknown_comparison_selected :
    ¬ ∀ (setting : Setting) (strategies : List Strategy) (featureId : String)
      (context : Attributes) (i : Nat) (s : Strategy) (c : Condition), c.IsUnknown →
        c ∈ s.conditions → (apply setting strategies featureId context).choice ≠ some ⟨i, s⟩ := by
  intro h
  let c : Condition := ⟨.unknown, "mood", [], .string⟩
  let setting : Setting := ⟨fun _ _ => 0, ⟨"2025-01-01", "2025-01-01T00:00:00Z"⟩⟩
  have hholds : conditionHolds setting.now .empty c = true := by decide +kernel
  exact h setting _ "feature" .empty 0 _ c (Or.inl rfl) (List.mem_singleton.mpr rfl)
    (choice_apply_singleton hholds "feature")

end Rollout

end FeatureFlags
