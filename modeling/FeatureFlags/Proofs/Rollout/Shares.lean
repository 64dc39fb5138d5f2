import FeatureFlags.Proofs.Rollout.Reordering

/-!
# Raising the share of a strategy

Where the slice of a strategy starts does not depend on its share, and neither do the strategies
before it. So a strategy that is selected stays selected when its share is raised, as long as it had
one (`applies_withShare_iff`). A share of zero is another matter: it is taken for none, and a
strategy with conditions and without a share applies to everybody who satisfies them.

The main statement says what this comes to. Raising the share of the strategy that is selected keeps
it selected exactly if the share was not zero, or stays zero, or takes in the bucket of the context.
-/

set_option autoImplicit false

namespace FeatureFlags

/-- The strategy with an explicit share. -/
def Strategy.withShare (s : Strategy) (share : UInt32) : Strategy :=
  { s with percentage := some share }

/-- An explicit share is the share. -/
@[simp] theorem Strategy.share_withShare (s : Strategy) (share : UInt32) :
    (s.withShare share).share = share := rfl

/-- Another share leaves the conditions as they are. -/
@[simp] theorem Strategy.conditions_withShare (s : Strategy) (share : UInt32) :
    (s.withShare share).conditions = s.conditions := rfl

namespace Rollout

/-- The strategies, of which the `i`th has an explicit share. -/
def reshare (strategies : List Strategy) (i : Nat) (share : UInt32) : List Strategy :=
  strategies.modify i fun s => s.withShare share

/-- Whether the `i`th strategy is the one that is selected. -/
def Chooses (setting : Setting) (strategies : List Strategy) (featureId : String)
    (context : Attributes) (i : Nat) : Prop :=
  (apply setting strategies featureId context).choice.map Choice.index = some i

/-- Another share leaves the identity as it is. -/
@[simp] theorem identity_withShare (context : Attributes) (s : Strategy) (share : UInt32) :
    identity context (s.withShare share) = identity context s := rfl

section Single

variable {setting : Setting} {featureId : String} {context : Attributes}
  {before : List Strategy} {s : Strategy} {p q : UInt32}

/-- A slice that grows keeps its buckets. -/
theorem isInSlice_of_le (h : p ≤ q)
    (hp : IsInSlice setting featureId context before (s.withShare p)) :
    IsInSlice setting featureId context before (s.withShare q) := by
  have hle : p.toNat ≤ q.toNat := UInt32.le_iff_toNat_le.mp h
  have hstart : sliceStart context before (s.withShare q) =
      sliceStart context before (s.withShare p) := rfl
  simp only [IsInSlice, hstart, identity_withShare, Strategy.share_withShare] at hp ⊢
  omega

/-- A strategy that applies goes on to apply with a greater share, unless it had the share zero and
the bucket of the context lies beyond the share it gets. -/
theorem applies_withShare_iff (h : p ≤ q)
    (hp : Applies setting featureId context before (s.withShare p)) :
    Applies setting featureId context before (s.withShare q) ↔
      (p = 0 → q ≠ 0 → setting.bucket (identity context s) featureId < q) := by
  by_cases hzero : p = 0
  · -- with the share zero, only a strategy with conditions can have applied
    have hconditions : s.conditions ≠ [] := by
      have hsome := hp.1
      rw [if_pos (show (s.withShare p).share = 0 from hzero)] at hsome
      exact hsome
    rw [applies_iff_of_conditions (s := s.withShare q) hconditions]
    unfold AppliesAnywhere
    constructor
    · rintro ⟨-, -, hshare⟩ - hq
      exact hshare.resolve_left hq
    · intro hbucket
      refine ⟨hconditions, hp.2, ?_⟩
      by_cases hq : q = 0
      · exact Or.inl hq
      · exact Or.inr (hbucket hzero hq)
  · have hq : q ≠ 0 := by
      rintro rfl
      exact hzero (UInt32.le_antisymm h (UInt32.zero_le))
    refine iff_of_true ⟨?_, hp.2⟩ fun hno => absurd hno hzero
    have hslice := hp.1
    rw [if_neg (show (s.withShare p).share ≠ 0 from hzero)] at hslice
    rw [if_neg (show (s.withShare q).share ≠ 0 from hq)]
    exact isInSlice_of_le h hslice

end Single

section Choice

variable {setting : Setting} {strategies : List Strategy} {featureId : String}
  {context : Attributes} {i : Nat}

/-- The strategies before the one with another share are the same. -/
theorem take_reshare {j : Nat} (hj : j ≤ i) (share : UInt32) :
    (reshare strategies i share).take j = strategies.take j := by
  have hlength : (strategies.take j).length ≤ i := Nat.le_trans (List.length_take_le ..) hj
  unfold reshare
  rw [List.take_modify, List.modify_eq_self hlength]

/-- Each strategy before the one with another share is the same. -/
theorem getElem?_reshare_of_lt {j : Nat} (hj : j < i) (share : UInt32) :
    (reshare strategies i share)[j]? = strategies[j]? :=
  List.getElem?_modify_ne _ _ (Nat.ne_of_gt hj)

/-- The strategy itself has the other share. -/
theorem getElem?_reshare (share : UInt32) :
    (reshare strategies i share)[i]? = strategies[i]?.map fun s => s.withShare share :=
  List.getElem?_modify_eq ..

/-- What the walk chooses is the strategy that is selected. -/
theorem chooses_iff_selects :
    Chooses setting strategies featureId context i ↔
      ∃ s, Selects setting featureId context strategies i s := by
  unfold Chooses
  rw [Option.map_eq_some_iff]
  constructor
  · rintro ⟨⟨_, s⟩, hchoice, rfl⟩
    exact ⟨s, (choice_apply_iff setting strategies featureId context _ s).mp hchoice⟩
  · rintro ⟨s, hs⟩
    exact ⟨⟨i, s⟩, (choice_apply_iff setting strategies featureId context i s).mpr hs, rfl⟩

/-- Which share a strategy has decides whether it applies, and nothing about the strategies before
it. -/
theorem chooses_reshare_iff (share : UInt32) :
    Chooses setting (reshare strategies i share) featureId context i ↔
      (∃ s, strategies[i]? = some s ∧
        Applies setting featureId context (strategies.take i) (s.withShare share)) ∧
      ∀ j t, j < i → strategies[j]? = some t →
        ¬ Applies setting featureId context (strategies.take j) t := by
  have hbefore : (∀ j t, j < i → (reshare strategies i share)[j]? = some t →
      ¬ Applies setting featureId context ((reshare strategies i share).take j) t) ↔
      ∀ j t, j < i → strategies[j]? = some t →
        ¬ Applies setting featureId context (strategies.take j) t := by
    refine forall₃_congr fun j t hj => ?_
    rw [getElem?_reshare_of_lt hj, take_reshare (Nat.le_of_lt hj)]
  rw [chooses_iff_selects]
  simp only [Selects, hbefore, getElem?_reshare, take_reshare (Nat.le_refl i),
    Option.map_eq_some_iff]
  constructor
  · rintro ⟨_, ⟨s, hs, rfl⟩, happlies, hnone⟩
    exact ⟨⟨s, hs, happlies⟩, hnone⟩
  · rintro ⟨⟨s, hs, happlies⟩, hnone⟩
    exact ⟨_, ⟨s, hs, rfl⟩, happlies, hnone⟩

/-- When the share of the strategy that is selected is raised, the strategy stays selected, unless
its share was zero, is not zero any more, and leaves out the bucket of the context. -/
theorem stays_selected_iff {p q : UInt32} (h : p ≤ q)
    (hp : Chooses setting (reshare strategies i p) featureId context i) :
    Chooses setting (reshare strategies i q) featureId context i ↔
      (p = 0 → q ≠ 0 → ∀ s, strategies[i]? = some s →
        setting.bucket (identity context s) featureId < q) := by
  obtain ⟨⟨s, hs, happlies⟩, hnone⟩ := (chooses_reshare_iff p).mp hp
  have hq : Chooses setting (reshare strategies i q) featureId context i ↔
      Applies setting featureId context (strategies.take i) (s.withShare q) := by
    rw [chooses_reshare_iff, hs]
    simp only [Option.some.injEq, exists_eq_left', and_iff_left hnone]
  rw [hq, applies_withShare_iff h happlies, hs]
  simp only [Option.some.injEq, forall_eq']

/-- A second slice that grows at its end. -/
theorem stays_selected_in_second_slice :
    let plain : UInt32 → Strategy := fun share => ⟨none, some share, [], none, []⟩
    let setting : Setting := ⟨fun _ _ => 250000, ⟨"2025-01-01", "2025-01-01T00:00:00Z"⟩⟩
    let strategies := [plain 200000, plain 0]
    (100000 : UInt32) ≤ 300000 ∧
      Chooses setting (reshare strategies 1 100000) "feature" .empty 1 ∧
      Chooses setting (reshare strategies 1 300000) "feature" .empty 1 := by
  intro plain setting strategies
  have hle : (100000 : UInt32) ≤ 300000 := by decide
  have hp : Chooses setting (reshare strategies 1 100000) "feature" .empty 1 := by
    unfold Chooses
    decide +kernel
  exact ⟨hle, hp, (stays_selected_iff hle hp).mpr fun hzero => absurd hzero (by decide)⟩

/-- A strategy with conditions and the share zero is given to a context that a share of a tenth
leaves out. -/
theorem share_of_zero_selected :
    ¬ ∀ (setting : Setting) (strategies : List Strategy) (featureId : String)
      (context : Attributes) (i : Nat) (p q : UInt32), p ≤ q →
        Chooses setting (reshare strategies i p) featureId context i →
          Chooses setting (reshare strategies i q) featureId context i := by
  intro h
  let home : Condition := ⟨.equals, Attributes.country, [.string "new_zealand"], .string⟩
  let setting : Setting := ⟨fun _ _ => 450000, ⟨"2025-01-01", "2025-01-01T00:00:00Z"⟩⟩
  let context : Attributes := Attributes.empty.set Attributes.country "new_zealand"
  let strategies : List Strategy := [⟨none, none, [], none, [home]⟩]
  have hzero : Chooses setting (reshare strategies 0 0) "feature" context 0 := by
    unfold Chooses
    decide +kernel
  have htenth : ¬ Chooses setting (reshare strategies 0 100000) "feature" context 0 := by
    unfold Chooses
    decide +kernel
  exact htenth (h setting strategies "feature" context 0 0 100000 (by decide) hzero)

end Choice

end Rollout

end FeatureFlags
