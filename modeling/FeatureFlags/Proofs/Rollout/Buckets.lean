import Mathlib.Algebra.Order.BigOperators.Group.List
import Mathlib.Algebra.Order.Group.Nat
import FeatureFlags.Proofs.Rollout.Reordering

/-!
# Full and partial rollouts

The shared hash has 32 bits and is scaled down to a million buckets by a product of 64 bits, which
neither overflows nor comes to a million (`toNat_scaledHash`, `bucket_lt_bucketCount`).

So no bucket gets near the number at which sums of shares stop. Among strategies without conditions
that all bucket by one identity, the selected one can then be told from the exact sums of the
shares. It is the one whose slice of the sums has the bucket (`IsPlain.selects_iff`), and there is
one exactly if the bucket is less than the sum of all shares (`IsPlain.isMatched_iff`). The main
statement puts both together: shares of a million in all leave nobody out, and smaller ones leave
out the buckets from their sum on.
-/

set_option autoImplicit false

namespace FeatureFlags.Rollout

/-! ### Buckets -/

/-- There are a million buckets. -/
@[simp] theorem toNat_bucketCount : bucketCount.toNat = 1000000 := rfl

/-- The hash of an identity and a feature. -/
def sharedHash (identity featureId : String) : UInt32 :=
  Murmur3.hash 0 (Text.octets (identity ++ featureId))

/-- The hash, times the number of buckets, as a word of 64 bits. -/
def scaledHash (identity featureId : String) : UInt64 :=
  bucketCount.toUInt64 * (sharedHash identity featureId).toUInt64

/-- The product with the number of buckets fits into a word of 64 bits. -/
theorem toNat_scaledHash (identity featureId : String) :
    (scaledHash identity featureId).toNat = 1000000 * (sharedHash identity featureId).toNat := by
  have hhash := (sharedHash identity featureId).toNat_lt
  unfold scaledHash
  rw [UInt64.toNat_mul, UInt32.toNat_toUInt64, UInt32.toNat_toUInt64, toNat_bucketCount]
  refine Nat.mod_eq_of_lt ?_
  omega

/-- The scaled hash stays below the number of buckets, times that of hashes. -/
theorem scaledHash_lt (identity featureId : String) :
    (scaledHash identity featureId).toNat < 1000000 * 2 ^ 32 := by
  have hhash := (sharedHash identity featureId).toNat_lt
  rw [toNat_scaledHash]
  omega

/-- The upper half of the product is the bucket. -/
theorem toNat_bucket (identity featureId : String) :
    (bucket identity featureId).toNat = (scaledHash identity featureId).toNat / 2 ^ 32 := by
  have hlt := scaledHash_lt identity featureId
  rw [toNat_scaledHash] at hlt ⊢
  refine UInt32.toNat_ofNat_of_lt' ?_
  change 1000000 * (sharedHash identity featureId).toNat / 2 ^ 32 < 2 ^ 32
  omega

/-- Every bucket has a number below the number of buckets. -/
theorem bucket_lt_bucketCount (identity featureId : String) :
    bucket identity featureId < bucketCount := by
  have hlt := scaledHash_lt identity featureId
  rw [UInt32.lt_iff_toNat_lt, toNat_bucket, toNat_bucketCount]
  omega

/-! ### Sums of shares -/

/-- The exact sum of the shares of some strategies. -/
def sumOfShares (strategies : List Strategy) : Nat :=
  (strategies.map fun s => s.share.toNat).sum

/-- One more strategy adds its share. -/
theorem sumOfShares_concat (before : List Strategy) (s : Strategy) :
    sumOfShares (before ++ [s]) = sumOfShares before + s.share.toNat := by
  simp [sumOfShares]

/-- More strategies have no smaller sum of shares. -/
theorem sumOfShares_take_le (strategies : List Strategy) {i j : Nat} (h : i ≤ j) :
    sumOfShares (strategies.take i) ≤ sumOfShares (strategies.take j) := by
  have hpart : (strategies.take i).Sublist (strategies.take j) :=
    (List.take_prefix_take_left h).sublist
  exact (hpart.map _).sum_le_sum fun _ _ => Nat.zero_le _

/-- The next strategy adds its share. -/
theorem sumOfShares_take_succ {strategies : List Strategy} {i : Nat} {s : Strategy}
    (h : strategies[i]? = some s) :
    sumOfShares (strategies.take (i + 1)) =
      sumOfShares (strategies.take i) + s.share.toNat := by
  rw [List.take_add_one, h, Option.toList_some, sumOfShares_concat]

/-! ### Strategies with one identity -/

/-- Whether the strategies have no conditions and bucket a context by the same identity. -/
def IsPlain (context : Attributes) (key : String) (strategies : List Strategy) : Prop :=
  ∀ s ∈ strategies, s.conditions = [] ∧ identity context s = key

section Plain

variable {setting : Setting} {featureId : String} {context : Attributes} {key : String}
  {strategies : List Strategy}

/-- The first of some plain strategies are plain. -/
theorem IsPlain.take (h : IsPlain context key strategies) (i : Nat) :
    IsPlain context key (strategies.take i) :=
  fun s hs => h s (List.mem_of_mem_take hs)

/-- A plain strategy takes a slice exactly if it has a share. -/
theorem IsPlain.takesSlice_iff (h : IsPlain context key strategies) {s : Strategy}
    (hs : s ∈ strategies) : takesSlice context key s = true ↔ s.share ≠ 0 := by
  obtain ⟨hnone, hkey⟩ := h s hs
  simp [takesSlice, hnone, hkey]

/-- The slices of strategies with one identity end at the sum of their shares, unless the sum stops
before. -/
theorem IsPlain.sliceEnd_eq (h : IsPlain context key strategies) :
    sliceEnd context strategies key = min (sumOfShares strategies) (2 ^ 32 - 1) := by
  induction strategies using List.reverseRecOn with
  | nil => rfl
  | append_singleton before s ih =>
    have hbefore := ih fun t ht => h t (List.mem_append_left _ ht)
    have htakes := h.takesSlice_iff (s := s) (by simp)
    rw [sliceEnd_concat, sumOfShares_concat, hbefore]
    by_cases hshare : s.share = 0
    · rw [if_neg (mt htakes.mp (not_not_intro hshare)), hshare, UInt32.toNat_zero, Nat.add_zero]
    · rw [if_pos (htakes.mpr hshare)]
      omega

/-- A strategy applies exactly if the bucket is between the sum of the shares before it and the sum
with its own, unless the bucket is as great as the number at which sums stop. -/
theorem IsPlain.applies_iff (h : IsPlain context key strategies)
    (hb : (setting.bucket key featureId).toNat < 2 ^ 32 - 1) {i : Nat} {s : Strategy}
    (hs : strategies[i]? = some s) :
    Applies setting featureId context (strategies.take i) s ↔
      sumOfShares (strategies.take i) ≤ (setting.bucket key featureId).toNat ∧
        (setting.bucket key featureId).toNat < sumOfShares (strategies.take (i + 1)) := by
  have hmem : s ∈ strategies := List.mem_of_getElem? hs
  have hsucc := sumOfShares_take_succ hs
  have hbefore := (h.take i).sliceEnd_eq
  by_cases hshare : s.share = 0
  · -- a strategy without conditions and without a share has an empty slice
    have hno : ¬ Applies setting featureId context (strategies.take i) s := by
      intro happlies
      have htakes := takesSlice_of_applies happlies (h s hmem).1
      simp [takesSlice, hshare] at htakes
    rw [hshare, UInt32.toNat_zero] at hsucc
    refine iff_of_false hno ?_
    omega
  · have htakes := (h.takesSlice_iff hmem).mpr hshare
    rw [applies_iff_of_takesSlice htakes, sliceEnd_concat, if_pos htakes, hbefore, hsucc]
    omega

/-- The strategy that is selected is the one whose slice has the bucket: the slices before it end
too early. -/
theorem IsPlain.selects_iff (h : IsPlain context key strategies)
    (hb : (setting.bucket key featureId).toNat < 2 ^ 32 - 1) (i : Nat) (s : Strategy) :
    Selects setting featureId context strategies i s ↔
      strategies[i]? = some s ∧
        sumOfShares (strategies.take i) ≤ (setting.bucket key featureId).toNat ∧
        (setting.bucket key featureId).toNat < sumOfShares (strategies.take (i + 1)) := by
  unfold Selects
  refine and_congr_right fun hs => ?_
  rw [h.applies_iff hb hs]
  refine and_iff_left_of_imp fun hslice j t hj ht happlies => ?_
  have hearlier := ((h.applies_iff hb ht).mp happlies).2
  have hle := sumOfShares_take_le strategies (i := j + 1) (j := i) hj
  omega

/-- Some strategy is selected exactly if the sum of all shares is greater than the bucket. -/
theorem IsPlain.isMatched_iff (h : IsPlain context key strategies)
    (hb : (setting.bucket key featureId).toNat < 2 ^ 32 - 1) :
    (apply setting strategies featureId context).isMatched = true ↔
      (setting.bucket key featureId).toNat < sumOfShares strategies := by
  have hother : ∀ k n, n < sliceEnd context strategies k → k = key := by
    intro k n hn
    obtain ⟨before, s, after, rfl, htakes, -⟩ := exists_slice_of_lt hn
    have hkey := (h s (by simp)).2
    simp only [takesSlice, Bool.and_eq_true, beq_iff_eq] at htakes
    exact htakes.2.symm.trans hkey
  have hnever : ∀ s ∈ strategies, ¬ AppliesAnywhere setting featureId context s :=
    fun s hs happlies => happlies.1 (h s hs).1
  rw [isMatched_apply_iff]
  constructor
  · rintro (⟨k, hk⟩ | ⟨s, hs, happlies⟩)
    · obtain rfl := hother k _ hk
      rw [h.sliceEnd_eq] at hk
      omega
    · exact absurd happlies (hnever s hs)
  · intro hlt
    refine Or.inl ⟨key, ?_⟩
    rw [h.sliceEnd_eq]
    omega

end Plain

/-- The bucket of an identity for a feature is the upper half of a product that does not overflow,
and less than a million. So strategies without conditions that bucket by one identity leave nobody
out if their shares come to a million; in any case they give a context the strategy whose slice of
the sums of shares has its bucket, and none if the bucket is not less than the sum of all shares. -/
theorem rollout_by_shares (now : Moment) (featureId : String) :
    (∀ key, (scaledHash key featureId).toNat =
          bucketCount.toNat * (sharedHash key featureId).toNat ∧
        (bucket key featureId).toNat = (scaledHash key featureId).toNat / 2 ^ 32 ∧
        bucket key featureId < bucketCount) ∧
      ∀ context key strategies, IsPlain context key strategies →
        let o := apply (.shared now) strategies featureId context
        let b := (bucket key featureId).toNat
        (bucketCount.toNat ≤ sumOfShares strategies → o.isMatched = true) ∧
          (∀ i s, o.choice = some ⟨i, s⟩ ↔ strategies[i]? = some s ∧
            sumOfShares (strategies.take i) ≤ b ∧ b < sumOfShares (strategies.take (i + 1))) ∧
          (o.isMatched = false ↔ sumOfShares strategies ≤ b) := by
  refine ⟨fun key => ⟨toNat_scaledHash key featureId, toNat_bucket key featureId,
    bucket_lt_bucketCount key featureId⟩, fun context key strategies h => ?_⟩
  intro o b
  have hb : b < bucketCount.toNat := UInt32.lt_iff_toNat_lt.mp (bucket_lt_bucketCount key featureId)
  have hsmall : b < 2 ^ 32 - 1 := by
    rw [toNat_bucketCount] at hb
    omega
  have hmatched : o.isMatched = true ↔ b < sumOfShares strategies := h.isMatched_iff hsmall
  refine ⟨fun hfull => ?_, fun i s => ?_, ?_⟩
  · exact hmatched.mpr (Nat.lt_of_lt_of_le hb hfull)
  · exact (choice_apply_iff ..).trans (h.selects_iff hsmall i s)
  · rw [← Bool.not_eq_true, hmatched, Nat.not_lt]

/-- Three slices, of which the second one has the bucket of a user. -/
theorem rollout_by_shares_fred :
    let plain : UInt32 → Strategy := fun share => ⟨none, some share, [], none, []⟩
    let strategies := [plain 50000, plain 100000, plain 300000]
    let context := Attributes.empty.set Attributes.userKey "fred"
    let now : Moment := ⟨"2025-01-01", "2025-01-01T00:00:00Z"⟩
    IsPlain context "fred" strategies ∧ bucket "fred" "" = 97010 ∧
      (apply (.shared now) strategies "" context).choice = some ⟨1, plain 100000⟩ := by
  intro plain strategies context now
  have hplain : IsPlain context "fred" strategies := by
    intro s hs
    simp only [strategies, List.mem_cons, List.not_mem_nil, or_false] at hs
    rcases hs with rfl | rfl | rfl <;> exact ⟨rfl, by decide +kernel⟩
  have hbucket : bucket "fred" "" = 97010 := by decide +kernel
  obtain ⟨-, hpartial⟩ := rollout_by_shares now ""
  refine ⟨hplain, hbucket, ((hpartial context "fred" strategies hplain).2.1 1 _).mpr ⟨rfl, ?_⟩⟩
  rw [hbucket]
  decide

end FeatureFlags.Rollout
