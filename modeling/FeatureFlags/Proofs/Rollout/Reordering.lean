import Mathlib.Algebra.BigOperators.Group.List.Basic
import Mathlib.Data.List.Induction
import FeatureFlags.Proofs.Rollout.Selection

/-!
# Strategies in another order

Which strategy applies depends on the order of the strategies, because a slice starts where the
slices before it end. Whether any strategy applies does not. The slices that are taken of the
buckets of an identity follow one another without a gap (`exists_slice_of_lt`), from zero up to
their sum, which is the same in every order; it stops at the greatest number of 32 bits, and so
do the slices. A strategy with conditions is tried in the same way wherever it stands.
-/

set_option autoImplicit false

namespace FeatureFlags.Rollout

section

variable (setting : Setting) (featureId : String) (context : Attributes)

/-- Whether a strategy with conditions applies, wherever it stands. -/
def AppliesAnywhere (s : Strategy) : Prop :=
  s.conditions ≠ [] ∧ (∀ c ∈ s.conditions, conditionHolds setting.now context c = true) ∧
    (s.share = 0 ∨ setting.bucket (identity context s) featureId < s.share)

end

variable {setting : Setting} {featureId : String} {context : Attributes}

/-! ### Slices -/

/-- The sum of shares does not depend on their order. -/
theorem total_perm {shares others : List UInt32} (h : shares.Perm others) :
    total shares = total others := by
  unfold total
  rw [(h.map UInt32.toNat).sum_eq]

/-- Where the slices of some strategies end does not depend on their order. -/
theorem sliceEnd_perm {strategies others : List Strategy} (h : strategies.Perm others)
    (key : String) : sliceEnd context strategies key = sliceEnd context others key := by
  unfold sliceEnd
  exact total_perm ((h.filter _).map _)

/-- Behind more strategies slices do not end earlier. -/
theorem sliceEnd_le_append (before after : List Strategy) (key : String) :
    sliceEnd context before key ≤ sliceEnd context (before ++ after) key := by
  have hsmall : ∀ strategies : List Strategy,
      sliceEnd context strategies key ≤ 2 ^ 32 - 1 := fun _ => Nat.min_le_right ..
  induction after using List.reverseRecOn with
  | nil => simp
  | append_singleton after s ih =>
    have hbefore := hsmall before
    rw [← List.append_assoc, sliceEnd_concat]
    split
    · omega
    · exact ih

/-- The slices of an identity leave no gap: whatever is less than their end lies in one of them. -/
theorem exists_slice_of_lt {key : String} {n : Nat} {strategies : List Strategy}
    (h : n < sliceEnd context strategies key) :
    ∃ before s after, strategies = before ++ s :: after ∧ takesSlice context key s = true ∧
      sliceEnd context before key ≤ n ∧ n < sliceEnd context (before ++ [s]) key := by
  induction strategies using List.reverseRecOn with
  | nil => exact absurd h (Nat.not_lt_zero n)
  | append_singleton before s ih =>
    rcases Nat.lt_or_ge n (sliceEnd context before key) with hlt | hge
    · obtain ⟨first, t, rest, rfl, ht⟩ := ih hlt
      exact ⟨first, t, rest ++ [s], by simp, ht⟩
    · refine ⟨before, s, [], rfl, ?_, hge, h⟩
      by_contra htakes
      rw [sliceEnd_concat, if_neg htakes] at h
      exact absurd h (Nat.not_lt.mpr hge)

/-! ### Single strategies -/

/-- A strategy without conditions applies in the slice that it adds to those before it. -/
theorem applies_iff_of_takesSlice {key : String} {s : Strategy}
    (h : takesSlice context key s = true) (before : List Strategy) :
    Applies setting featureId context before s ↔
      sliceEnd context before key ≤ (setting.bucket key featureId).toNat ∧
        (setting.bucket key featureId).toNat < sliceEnd context (before ++ [s]) key := by
  rw [sliceEnd_concat, if_pos h]
  unfold takesSlice at h
  rw [Bool.and_eq_true, Bool.and_eq_true, bne_iff_ne, List.isEmpty_iff, beq_iff_eq] at h
  obtain ⟨⟨hshare, hnone⟩, rfl⟩ := h
  simp [Applies, IsInSlice, sliceStart, hshare, hnone]

/-- A strategy with conditions applies wherever it stands or nowhere. -/
theorem applies_iff_of_conditions {s : Strategy} (h : s.conditions ≠ [])
    (before : List Strategy) :
    Applies setting featureId context before s ↔ AppliesAnywhere setting featureId context s := by
  have hsmall : s.share.toNat ≤ 2 ^ 32 - 1 := Nat.le_of_lt_succ s.share.toNat_lt
  have hslice : IsInSlice setting featureId context before s ↔
      setting.bucket (identity context s) featureId < s.share := by
    rw [UInt32.lt_iff_toNat_lt]
    simp only [IsInSlice, sliceStart, List.isEmpty_iff, if_neg h]
    omega
  unfold Applies AppliesAnywhere
  by_cases hshare : s.share = 0
  · simp [hshare, h]
  · simp [hshare, h, hslice, and_comm]

/-- A strategy without conditions and without a share never applies. -/
theorem takesSlice_of_applies {before : List Strategy} {s : Strategy}
    (h : Applies setting featureId context before s) (hnone : s.conditions = []) :
    takesSlice context (identity context s) s = true := by
  have hshare : s.share ≠ 0 := by
    intro hzero
    have hsome := h.1
    rw [if_pos hzero] at hsome
    exact hsome hnone
  simp [takesSlice, hshare, hnone]

/-! ### All strategies -/

variable (setting featureId context)

/-- The walk finds a match exactly if some strategy applies behind those before it. -/
theorem isMatched_apply_iff_applies (strategies : List Strategy) :
    (apply setting strategies featureId context).isMatched = true ↔
      ∃ before s after, strategies = before ++ s :: after ∧
        Applies setting featureId context before s := by
  unfold Outcome.isMatched
  rcases apply_outcome setting strategies featureId context with ⟨i, s, hs, hchoice⟩ |
    ⟨hnone, hchoice⟩
  · rw [hchoice]
    obtain ⟨hi, rfl⟩ := List.getElem?_eq_some_iff.mp hs.1
    refine iff_of_true rfl ⟨strategies.take i, strategies[i], strategies.drop (i + 1), ?_, hs.2.1⟩
    rw [List.getElem_cons_drop, List.take_append_drop]
  · rw [hchoice]
    refine iff_of_false Bool.false_ne_true ?_
    rintro ⟨before, s, after, rfl, happlies⟩
    exact hnone before.length s (by simp) (by simpa using happlies)

/-- Some strategy applies exactly if the bucket of an identity is less than the sum of the shares
of the strategies without conditions that bucket by it, or if some strategy with conditions applies
wherever it stands. -/
theorem isMatched_apply_iff (strategies : List Strategy) :
    (apply setting strategies featureId context).isMatched = true ↔
      (∃ key, (setting.bucket key featureId).toNat < sliceEnd context strategies key) ∨
        ∃ s ∈ strategies, AppliesAnywhere setting featureId context s := by
  rw [isMatched_apply_iff_applies]
  constructor
  · rintro ⟨before, s, after, rfl, happlies⟩
    by_cases hnone : s.conditions = []
    · have htakes := takesSlice_of_applies happlies hnone
      have hlt := ((applies_iff_of_takesSlice htakes before).mp happlies).2
      have hle : sliceEnd context (before ++ [s]) (identity context s) ≤
          sliceEnd context (before ++ [s] ++ after) (identity context s) :=
        sliceEnd_le_append ..
      rw [← List.append_cons] at hle
      exact Or.inl ⟨identity context s, Nat.lt_of_lt_of_le hlt hle⟩
    · exact Or.inr ⟨s, by simp, (applies_iff_of_conditions hnone before).mp happlies⟩
  · rintro (⟨key, hlt⟩ | ⟨s, hs, happlies⟩)
    · obtain ⟨before, s, after, hsplit, htakes, hslice⟩ := exists_slice_of_lt hlt
      exact ⟨before, s, after, hsplit, (applies_iff_of_takesSlice htakes before).mpr hslice⟩
    · obtain ⟨before, after, hsplit⟩ := List.append_of_mem hs
      exact ⟨before, s, after, hsplit, (applies_iff_of_conditions happlies.1 before).mpr happlies⟩

/-- Whether any strategy applies is a matter of buckets, sums of shares and conditions, and the
same in every order of the strategies. -/
theorem isMatched_apply_of_perm (strategies : List Strategy) :
    ((apply setting strategies featureId context).isMatched = true ↔
      (∃ key, (setting.bucket key featureId).toNat < sliceEnd context strategies key) ∨
        ∃ s ∈ strategies, AppliesAnywhere setting featureId context s) ∧
    ∀ others, strategies.Perm others →
      (apply setting others featureId context).isMatched =
        (apply setting strategies featureId context).isMatched := by
  refine ⟨isMatched_apply_iff setting featureId context strategies, fun others hperm => ?_⟩
  have hends : ∀ key, sliceEnd context others key = sliceEnd context strategies key :=
    fun key => (sliceEnd_perm hperm key).symm
  rw [Bool.eq_iff_iff, isMatched_apply_iff, isMatched_apply_iff]
  simp only [hends, hperm.mem_iff]

/-- Two slices that change places: another strategy applies, but still one of the two. -/
theorem isMatched_apply_of_swap :
    let plain : UInt32 → Strategy := fun share => ⟨none, some share, [], none, []⟩
    let setting : Setting := ⟨fun _ _ => 450000, ⟨"2025-01-01", "2025-01-01T00:00:00Z"⟩⟩
    let outcome := fun strategies => apply setting strategies "feature" .empty
    [plain 200000, plain 300000].Perm [plain 300000, plain 200000] ∧
      (outcome [plain 200000, plain 300000]).choice.map (fun c => c.strategy.share) =
        some 300000 ∧
      (outcome [plain 300000, plain 200000]).choice.map (fun c => c.strategy.share) =
        some 200000 ∧
      (outcome [plain 300000, plain 200000]).isMatched =
        (outcome [plain 200000, plain 300000]).isMatched := by
  intro plain setting outcome
  have hswap : [plain 200000, plain 300000].Perm [plain 300000, plain 200000] := .swap ..
  obtain ⟨-, hsame⟩ := isMatched_apply_of_perm setting "feature" .empty
    [plain 200000, plain 300000]
  exact ⟨hswap, by decide +kernel, by decide +kernel, hsame _ hswap⟩

end FeatureFlags.Rollout
