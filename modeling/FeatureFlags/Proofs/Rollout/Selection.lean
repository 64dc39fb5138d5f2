import Mathlib.Algebra.GroupWithZero.Nat
import FeatureFlags.Rollout

/-!
# Which strategy applies

`walk` tries one strategy after the other and carries along, for every identity it has met, the
bucket and the end of the slices that were taken. Whether a strategy applies can be said without
this table, by a look at the strategies before it: `Applies`. The first strategy that applies is
the one that is selected (`Selects`).

The table always holds what the strategies before would put into it (`Tracks`), which one step of
the walk keeps (`Tracks.concat`). The main statement is that the walk comes to what these
definitions say, and that it asks for the bucket of every identity once.
-/

set_option autoImplicit false

namespace FeatureFlags.Rollout

/-- The sum of some shares, which stops at the greatest number of 32 bits. -/
def total (shares : List UInt32) : Nat := min (shares.map UInt32.toNat).sum (2 ^ 32 - 1)

section Reference

variable (setting : Setting) (featureId : String) (context : Attributes)

/-- The identities by which the strategies with a share bucket a context, in order. -/
def percentageKeys (strategies : List Strategy) : List String :=
  (strategies.filter fun s => s.share != 0).map (identity context)

/-- Whether a strategy has a share, no conditions, and buckets by an identity. -/
def takesSlice (key : String) (s : Strategy) : Bool :=
  s.share != 0 && s.conditions.isEmpty && identity context s == key

/-- Where the slices end that some strategies take of the buckets of an identity. -/
def sliceEnd (strategies : List Strategy) (key : String) : Nat :=
  total ((strategies.filter (takesSlice context key)).map Strategy.share)

/-- Where the slice of a strategy starts, given the strategies before it. -/
def sliceStart (before : List Strategy) (s : Strategy) : Nat :=
  if s.conditions.isEmpty then sliceEnd context before (identity context s) else 0

/-- Whether the bucket of a context lies in the slice of a strategy, given the strategies before
it. -/
def IsInSlice (before : List Strategy) (s : Strategy) : Prop :=
  let start := sliceStart context before s
  let bucket := (setting.bucket (identity context s) featureId).toNat
  start ≤ bucket ∧ bucket < min (start + s.share.toNat) (2 ^ 32 - 1)

/-- Whether a strategy applies, given the strategies before it. -/
def Applies (before : List Strategy) (s : Strategy) : Prop :=
  (if s.share = 0 then s.conditions ≠ [] else IsInSlice setting featureId context before s) ∧
    ∀ c ∈ s.conditions, conditionHolds setting.now context c = true

/-- Whether none of the first `n` strategies applies, given the strategies before them all. -/
def NoneApplies (before strategies : List Strategy) (n : Nat) : Prop :=
  ∀ j t, j < n → strategies[j]? = some t →
    ¬ Applies setting featureId context (before ++ strategies.take j) t

/-- Whether the `i`th strategy is the first one that applies. -/
def Selects (strategies : List Strategy) (i : Nat) (s : Strategy) : Prop :=
  strategies[i]? = some s ∧ Applies setting featureId context (strategies.take i) s ∧
    ∀ j t, j < i → strategies[j]? = some t →
      ¬ Applies setting featureId context (strategies.take j) t

end Reference

/-- The strategies that were tried: all up to the one that applies. -/
def Outcome.tried (o : Outcome) (strategies : List Strategy) : List Strategy :=
  match o.choice with
  | some c => strategies.take (c.index + 1)
  | none => strategies

/-! ### Shares -/

/-- Shares are added up to the greatest number of 32 bits. -/
theorem toNat_addShares (a b : UInt32) :
    (addShares a b).toNat = min (a.toNat + b.toNat) (2 ^ 32 - 1) := by
  unfold addShares
  rw [UInt32.toNat_ofNat']
  have hsmall : min (a.toNat + b.toNat) (2 ^ 32 - 1) < 2 ^ 32 := by omega
  exact Nat.mod_eq_of_lt hsmall

/-- A slice begins at its start and has as many buckets as its share. -/
theorem inSlice_iff (start share bucket : UInt32) :
    inSlice start share bucket = true ↔
      start.toNat ≤ bucket.toNat ∧ bucket.toNat < min (start.toNat + share.toNat) (2 ^ 32 - 1) := by
  unfold inSlice
  rw [Bool.and_eq_true, decide_eq_true_iff, decide_eq_true_iff, UInt32.le_iff_toNat_le,
    UInt32.lt_iff_toNat_lt, toNat_addShares]

/-- Stopping at the greatest number on the way does not change where the sum stops. -/
theorem total_concat (shares : List UInt32) (share : UInt32) :
    total (shares ++ [share]) = min (total shares + share.toNat) (2 ^ 32 - 1) := by
  unfold total
  rw [List.map_append, List.sum_append]
  simp only [List.map_cons, List.map_nil, List.sum_cons, List.sum_nil]
  omega

section Walk

variable {setting : Setting} {featureId : String} {context : Attributes}

/-- One more strategy with a share adds its identity. -/
theorem percentageKeys_concat (before : List Strategy) (s : Strategy) :
    percentageKeys context (before ++ [s]) =
      percentageKeys context before ++ if s.share = 0 then [] else [identity context s] := by
  unfold percentageKeys
  rw [List.filter_append, List.map_append]
  by_cases hs : s.share = 0 <;> simp [hs]

/-- One more strategy that takes a slice adds its share. -/
theorem sliceEnd_concat (before : List Strategy) (s : Strategy) (key : String) :
    sliceEnd context (before ++ [s]) key =
      if takesSlice context key s then
        min (sliceEnd context before key + s.share.toNat) (2 ^ 32 - 1)
      else sliceEnd context before key := by
  unfold sliceEnd
  rw [List.filter_append]
  by_cases hs : takesSlice context key s = true
  · rw [if_pos hs, List.filter_cons_of_pos hs, List.map_append]
    exact total_concat ..
  · rw [if_neg hs, List.filter_cons_of_neg hs, List.filter_nil, List.append_nil]

/-- Nobody takes a slice of the buckets of an identity that does not occur. -/
theorem sliceEnd_of_not_mem {before : List Strategy} {key : String}
    (h : key ∉ percentageKeys context before) : sliceEnd context before key = 0 := by
  have hnone : before.filter (takesSlice context key) = [] := by
    refine List.filter_eq_nil_iff.mpr fun s hs htakes => h ?_
    unfold takesSlice at htakes
    rw [Bool.and_eq_true, Bool.and_eq_true, beq_iff_eq] at htakes
    exact List.mem_map.mpr ⟨s, List.mem_filter.mpr ⟨hs, htakes.1.1⟩, htakes.2⟩
  unfold sliceEnd
  rw [hnone]
  rfl

/-- The walk's table holds what the strategies before would put into it. -/
structure Tracks (setting : Setting) (featureId : String) (context : Attributes)
    (before : List Strategy) (taken : Table String Taken) : Prop where
  /-- An identity that occurred has its bucket and the end of its slices in the table. -/
  get?_of_mem : ∀ key ∈ percentageKeys context before, ∃ t, taken.get? key = some t ∧
    t.bucket = setting.bucket key featureId ∧ t.share.toNat = sliceEnd context before key
  /-- No other identity is in the table. -/
  get?_of_not_mem : ∀ key, key ∉ percentageKeys context before → taken.get? key = none

/-- Before any strategy nothing is taken. -/
theorem tracks_empty : Tracks setting featureId context [] .empty where
  get?_of_mem _ hkey := nomatch hkey
  get?_of_not_mem _ _ := rfl

/-- What the walk knows of an identity: from the table, or asked for just now. -/
def lookUp (setting : Setting) (featureId : String) (taken : Table String Taken) (key : String) :
    Taken × List String :=
  match taken.get? key with
  | some t => (t, [])
  | none => (⟨setting.bucket key featureId, 0⟩, [key])

/-- What is asked for when a strategy is tried behind others. -/
def newKeys (context : Attributes) (before : List Strategy) (s : Strategy) : List String :=
  if s.share ≠ 0 ∧ identity context s ∉ percentageKeys context before then [identity context s]
  else []

/-- One more key is new if it was not there. -/
theorem eraseDups_concat (keys : List String) (key : String) :
    (keys ++ [key]).eraseDups = keys.eraseDups ++ if key ∈ keys then [] else [key] := by
  rw [List.eraseDups_append]
  by_cases h : key ∈ keys <;> simp [List.removeAll, h, List.eraseDups_cons]

/-- One more strategy adds its identity to the different ones if it is new. -/
theorem eraseDups_percentageKeys_concat (before : List Strategy) (s : Strategy) :
    (percentageKeys context (before ++ [s])).eraseDups =
      (percentageKeys context before).eraseDups ++ newKeys context before s := by
  rw [percentageKeys_concat]
  unfold newKeys
  by_cases hs : s.share = 0
  · simp [hs]
  · rw [if_neg hs, eraseDups_concat]
    by_cases hkey : identity context s ∈ percentageKeys context before <;> simp [hs, hkey]

namespace Tracks

variable {before : List Strategy} {taken : Table String Taken}

/-- What the walk knows of an identity is its bucket and the end of its slices. -/
theorem lookUp_eq (h : Tracks setting featureId context before taken) (key : String) :
    let known := lookUp setting featureId taken key
    known.1.bucket = setting.bucket key featureId ∧
      known.1.share.toNat = sliceEnd context before key ∧
      known.2 = if key ∈ percentageKeys context before then [] else [key] := by
  intro known
  by_cases hkey : key ∈ percentageKeys context before
  · obtain ⟨t, ht, hbucket, hshare⟩ := h.get?_of_mem key hkey
    have hknown : known = (t, []) := by simp [known, lookUp, ht]
    rw [hknown, if_pos hkey]
    exact ⟨hbucket, hshare, rfl⟩
  · have hknown : known = (⟨setting.bucket key featureId, 0⟩, [key]) := by
      simp [known, lookUp, h.get?_of_not_mem key hkey]
    rw [hknown, if_neg hkey, sliceEnd_of_not_mem hkey]
    exact ⟨rfl, rfl, rfl⟩

/-- A strategy without a share leaves the table as it is. -/
theorem concat_of_no_share (h : Tracks setting featureId context before taken) {s : Strategy}
    (hs : s.share = 0) : Tracks setting featureId context (before ++ [s]) taken := by
  have hkeys : percentageKeys context (before ++ [s]) = percentageKeys context before := by
    rw [percentageKeys_concat, if_pos hs, List.append_nil]
  constructor
  · intro key hkey
    have hend : sliceEnd context (before ++ [s]) key = sliceEnd context before key := by
      rw [sliceEnd_concat, if_neg (by simp [takesSlice, hs])]
    rw [hkeys] at hkey
    rw [hend]
    exact h.get?_of_mem key hkey
  · intro key hkey
    rw [hkeys] at hkey
    exact h.get?_of_not_mem key hkey

/-- What the walk writes for a strategy with a share. -/
theorem concat_of_share (h : Tracks setting featureId context before taken) {s : Strategy}
    (hs : s.share ≠ 0) {share : UInt32}
    (hshare : share.toNat = sliceEnd context (before ++ [s]) (identity context s)) :
    Tracks setting featureId context (before ++ [s]) (taken.insert (identity context s)
      ⟨setting.bucket (identity context s) featureId, share⟩) := by
  have hkeys : percentageKeys context (before ++ [s]) =
      percentageKeys context before ++ [identity context s] := by
    rw [percentageKeys_concat, if_neg hs]
  constructor
  · intro key hkey
    rw [Table.get?_insert]
    by_cases heq : key = identity context s
    · rw [if_pos heq, heq]
      exact ⟨_, rfl, rfl, hshare⟩
    · have hmem : key ∈ percentageKeys context before := by
        rw [hkeys, List.mem_append, List.mem_singleton] at hkey
        exact hkey.resolve_right heq
      have hend : sliceEnd context (before ++ [s]) key = sliceEnd context before key := by
        rw [sliceEnd_concat, if_neg (by simp [takesSlice, Ne.symm heq])]
      rw [if_neg heq, hend]
      exact h.get?_of_mem key hmem
  · intro key hkey
    rw [hkeys, List.mem_append, List.mem_singleton, not_or] at hkey
    rw [Table.get?_insert, if_neg hkey.2]
    exact h.get?_of_not_mem key hkey.1

end Tracks

/-- All conditions of a strategy hold if each of them does. -/
theorem conditionsHold_iff (s : Strategy) :
    conditionsHold setting.now context s = true ↔
      ∀ c ∈ s.conditions, conditionHolds setting.now context c = true :=
  List.all_eq_true

/-- Where the walk has the slice of a strategy start. -/
def startFrom (known : Taken) (s : Strategy) : UInt32 :=
  if s.conditions.isEmpty then known.share else 0

/-- What the walk knows of an identity after a strategy was tried in vain. -/
def afterSlice (known : Taken) (s : Strategy) : Taken :=
  ⟨known.bucket, if s.conditions.isEmpty then addShares known.share s.share else known.share⟩

/-- A strategy with a share is chosen if its slice has the bucket and its conditions hold; otherwise
the walk goes on behind its slice. -/
theorem walk_cons_of_share {taken : Table String Taken} (index : Nat) {s : Strategy}
    (rest : List Strategy) (hs : s.share ≠ 0) :
    let known := lookUp setting featureId taken (identity context s)
    let later := walk setting featureId context (index + 1)
      (taken.insert (identity context s) (afterSlice known.1 s)) rest
    walk setting featureId context index taken (s :: rest) =
      if inSlice (startFrom known.1 s) s.share known.1.bucket &&
        conditionsHold setting.now context s then ⟨some ⟨index, s⟩, known.2⟩
      else ⟨later.choice, known.2 ++ later.asked⟩ := by
  intro known later
  rw [walk, if_neg hs]
  rfl

section Step

variable {before : List Strategy} {taken : Table String Taken}

/-- The walk tests whether a strategy applies. -/
theorem Tracks.applies_iff (h : Tracks setting featureId context before taken) {s : Strategy}
    (hs : s.share ≠ 0) :
    let known := lookUp setting featureId taken (identity context s)
    (inSlice (startFrom known.1 s) s.share known.1.bucket &&
      conditionsHold setting.now context s) = true ↔
      Applies setting featureId context before s := by
  intro known
  obtain ⟨hbucket, hshare, -⟩ := h.lookUp_eq (identity context s)
  have hstart : (startFrom known.1 s).toNat = sliceStart context before s := by
    unfold startFrom sliceStart
    split
    · exact hshare
    · rfl
  unfold Applies IsInSlice
  rw [if_neg hs, Bool.and_eq_true, inSlice_iff, conditionsHold_iff, hstart, hbucket]

/-- What the walk knows after a strategy was tried is what the strategies up to this one would
put into the table. -/
theorem Tracks.concat (h : Tracks setting featureId context before taken) {s : Strategy}
    (hs : s.share ≠ 0) :
    let known := lookUp setting featureId taken (identity context s)
    Tracks setting featureId context (before ++ [s])
      (taken.insert (identity context s) (afterSlice known.1 s)) := by
  intro known
  obtain ⟨hbucket, hshare, -⟩ := h.lookUp_eq (identity context s)
  have htakes : takesSlice context (identity context s) s = s.conditions.isEmpty := by
    simp [takesSlice, hs]
  unfold afterSlice
  rw [hbucket]
  refine h.concat_of_share hs ?_
  rw [sliceEnd_concat, htakes, ← hshare]
  split
  · exact toNat_addShares ..
  · rfl

/-- One step of the walk. -/
theorem walk_cons (h : Tracks setting featureId context before taken) (index : Nat) (s : Strategy)
    (rest : List Strategy) :
    Applies setting featureId context before s ∧
        walk setting featureId context index taken (s :: rest) =
          ⟨some ⟨index, s⟩, newKeys context before s⟩ ∨
      ¬ Applies setting featureId context before s ∧
        ∃ taken', Tracks setting featureId context (before ++ [s]) taken' ∧
          let later := walk setting featureId context (index + 1) taken' rest
          walk setting featureId context index taken (s :: rest) =
            ⟨later.choice, newKeys context before s ++ later.asked⟩ := by
  by_cases hs : s.share = 0
  · have hnew : newKeys context before s = [] := by simp [newKeys, hs]
    have happlies : (!s.conditions.isEmpty && conditionsHold setting.now context s) = true ↔
        Applies setting featureId context before s := by
      unfold Applies
      rw [if_pos hs, Bool.and_eq_true, conditionsHold_iff]
      simp
    by_cases ha : Applies setting featureId context before s
    · refine Or.inl ⟨ha, ?_⟩
      rw [walk, if_pos hs, if_pos (happlies.mpr ha), hnew]
    · refine Or.inr ⟨ha, taken, h.concat_of_no_share hs, ?_⟩
      rw [walk, if_pos hs, if_neg (mt happlies.mp ha), hnew]
      rfl
  -- only a strategy with a share looks its identity up
  · have hnew : (lookUp setting featureId taken (identity context s)).2 =
        newKeys context before s := by
      obtain ⟨-, -, hasked⟩ := h.lookUp_eq (identity context s)
      rw [hasked]
      unfold newKeys
      by_cases hkey : identity context s ∈ percentageKeys context before <;> simp [hs, hkey]
    have hwalk := @walk_cons_of_share setting featureId context taken index s rest hs
    simp only [hnew] at hwalk
    by_cases ha : Applies setting featureId context before s
    · refine Or.inl ⟨ha, ?_⟩
      rw [hwalk, if_pos ((h.applies_iff hs).mpr ha)]
    · refine Or.inr ⟨ha, _, h.concat hs, ?_⟩
      rw [hwalk, if_neg (mt (h.applies_iff hs).mp ha)]

end Step

/-- None of no strategies applies. -/
theorem noneApplies_zero (before strategies : List Strategy) :
    NoneApplies setting featureId context before strategies 0 :=
  fun j _ hj => absurd hj (Nat.not_lt_zero j)

/-- The place of a strategy in a list is one more than its place behind the first. -/
theorem noneApplies_cons {before : List Strategy} {s : Strategy} {rest : List Strategy} {n : Nat}
    (hs : ¬ Applies setting featureId context before s)
    (hrest : NoneApplies setting featureId context (before ++ [s]) rest n) :
    NoneApplies setting featureId context before (s :: rest) (n + 1) := by
  intro j t hj ht
  cases j with
  | zero =>
    rw [List.getElem?_cons_zero, Option.some.injEq] at ht
    rw [List.take_zero, List.append_nil, ← ht]
    exact hs
  | succ k =>
    rw [List.getElem?_cons_succ] at ht
    rw [List.take_succ_cons, List.append_cons]
    exact hrest k t (Nat.lt_of_succ_lt_succ hj) ht

/-- What comes of trying some strategies behind others: either one of them is the first that
applies, or none applies. The identities that were asked for are those that the strategies up to
the last one tried use for the first time. -/
theorem walk_outcome {before : List Strategy} {taken : Table String Taken} (index : Nat)
    (strategies : List Strategy) (h : Tracks setting featureId context before taken) :
    let o := walk setting featureId context index taken strategies
    (∃ i s, strategies[i]? = some s ∧
        Applies setting featureId context (before ++ strategies.take i) s ∧
        NoneApplies setting featureId context before strategies i ∧
        o.choice = some ⟨index + i, s⟩ ∧
        (percentageKeys context before).eraseDups ++ o.asked =
          (percentageKeys context (before ++ strategies.take (i + 1))).eraseDups) ∨
      (NoneApplies setting featureId context before strategies strategies.length ∧
        o.choice = none ∧
        (percentageKeys context before).eraseDups ++ o.asked =
          (percentageKeys context (before ++ strategies)).eraseDups) := by
  -- by induction on the strategies that are left, with those before them in the table
  induction strategies generalizing before taken index with
  | nil => exact Or.inr ⟨noneApplies_zero _ _, rfl, by simp [walk]⟩
  | cons s rest ih =>
    rcases walk_cons h index s rest with ⟨ha, hwalk⟩ | ⟨hna, taken', h', hwalk⟩
    · refine Or.inl ⟨0, s, rfl, ?_, noneApplies_zero _ _, ?_, ?_⟩
      · simpa using ha
      · rw [hwalk]
        rfl
      · rw [hwalk]
        simp [eraseDups_percentageKeys_concat]
    · have hasked : ∀ asked : List String,
          (percentageKeys context before).eraseDups ++ (newKeys context before s ++ asked) =
            (percentageKeys context (before ++ [s])).eraseDups ++ asked := by
        intro asked
        rw [eraseDups_percentageKeys_concat, List.append_assoc]
      rcases ih (index + 1) h' with ⟨i, c, hc, happlies, hfirst, hchoice, hkeys⟩ |
        ⟨hnone, hchoice, hkeys⟩
      · refine Or.inl ⟨i + 1, c, hc, ?_, noneApplies_cons hna hfirst, ?_, ?_⟩
        · rw [List.take_succ_cons, List.append_cons]
          exact happlies
        · rw [hwalk, hchoice, Nat.add_right_comm, Nat.add_assoc]
        · rw [hwalk, hasked, hkeys, List.take_succ_cons, ← List.append_cons]
      · refine Or.inr ⟨noneApplies_cons hna hnone, ?_, ?_⟩
        · rw [hwalk, hchoice]
        · rw [hwalk, hasked, hkeys, ← List.append_cons]

/-- No two strategies are both the first that applies. -/
theorem Selects.unique {strategies : List Strategy} {i j : Nat} {s t : Strategy}
    (hs : Selects setting featureId context strategies i s)
    (ht : Selects setting featureId context strategies j t) : i = j ∧ s = t := by
  have hij : i = j := by
    rcases Nat.lt_trichotomy i j with hlt | heq | hlt
    · exact absurd hs.2.1 (ht.2.2 i s hlt hs.1)
    · exact heq
    · exact absurd ht.2.1 (hs.2.2 j t hlt ht.1)
  subst hij
  have hst := hs.1.symm.trans ht.1
  exact ⟨rfl, Option.some.inj hst⟩

end Walk

section Apply

variable (setting : Setting) (strategies : List Strategy) (featureId : String)
  (context : Attributes)

/-- What comes of trying all strategies. -/
theorem apply_outcome :
    (∃ i s, Selects setting featureId context strategies i s ∧
        (apply setting strategies featureId context).choice = some ⟨i, s⟩) ∨
      ((∀ i s, strategies[i]? = some s →
          ¬ Applies setting featureId context (strategies.take i) s) ∧
        (apply setting strategies featureId context).choice = none) := by
  rcases walk_outcome 0 strategies tracks_empty with ⟨i, s, hs, happlies, hfirst, hchoice, -⟩ |
    ⟨hnone, hchoice, -⟩
  · rw [Nat.zero_add] at hchoice
    exact Or.inl ⟨i, s, ⟨hs, happlies, hfirst⟩, hchoice⟩
  · refine Or.inr ⟨fun i s hs => hnone i s ?_ hs, hchoice⟩
    exact (List.getElem?_eq_some_iff.mp hs).1

/-- The strategy that is chosen is the first one that applies. -/
theorem choice_apply_iff (i : Nat) (s : Strategy) :
    (apply setting strategies featureId context).choice = some ⟨i, s⟩ ↔
      Selects setting featureId context strategies i s := by
  rcases apply_outcome setting strategies featureId context with ⟨j, t, ht, hchoice⟩ |
    ⟨hnone, hchoice⟩
  · rw [hchoice, Option.some.injEq, Choice.mk.injEq]
    constructor
    · rintro ⟨rfl, rfl⟩
      exact ht
    · exact fun hs => ht.unique hs
  · rw [hchoice]
    refine iff_of_false (fun h => nomatch h) fun hs => ?_
    exact hnone i s hs.1 hs.2.1

/-- Every identity that the strategies tried bucket by is asked for once, at its first use. -/
theorem asked_apply :
    (apply setting strategies featureId context).asked =
      (percentageKeys context
        ((apply setting strategies featureId context).tried strategies)).eraseDups := by
  have hstart : (percentageKeys context []).eraseDups = [] := rfl
  rcases walk_outcome 0 strategies tracks_empty with ⟨i, s, -, -, -, hchoice, hkeys⟩ |
    ⟨-, hchoice, hkeys⟩
  · have htried : (apply setting strategies featureId context).tried strategies =
        strategies.take (i + 1) := by
      unfold Outcome.tried
      rw [show (apply setting strategies featureId context).choice = some ⟨0 + i, s⟩ from hchoice,
        Nat.zero_add]
    rw [htried]
    rw [hstart, List.nil_append, List.nil_append] at hkeys
    exact hkeys
  · have htried : (apply setting strategies featureId context).tried strategies = strategies := by
      unfold Outcome.tried
      rw [show (apply setting strategies featureId context).choice = none from hchoice]
    rw [htried]
    rw [hstart, List.nil_append, List.nil_append] at hkeys
    exact hkeys

/-- Trying strategies chooses the first one that applies and gives its value, comes to nothing
exactly if none applies, and asks for the bucket of every identity once, at its first use by a
strategy that was tried. -/
theorem apply_eq_reference :
    (∀ i s, (apply setting strategies featureId context).choice = some ⟨i, s⟩ ↔
        Selects setting featureId context strategies i s) ∧
      (∀ i s, Selects setting featureId context strategies i s →
        (apply setting strategies featureId context).value = s.value) ∧
      ((apply setting strategies featureId context).isMatched = true ↔
        ∃ i s, strategies[i]? = some s ∧
          Applies setting featureId context (strategies.take i) s) ∧
      ((apply setting strategies featureId context).isMatched = false →
        (apply setting strategies featureId context).value = none) ∧
      (apply setting strategies featureId context).asked =
        (percentageKeys context
          ((apply setting strategies featureId context).tried strategies)).eraseDups := by
  have hchosen := choice_apply_iff setting strategies featureId context
  have houtcome := apply_outcome setting strategies featureId context
  have hasked := asked_apply setting strategies featureId context
  generalize apply setting strategies featureId context = o at *
  refine ⟨hchosen, fun i s hs => ?_, ?_, ?_, hasked⟩
  · have hchoice : o.choice = some ⟨i, s⟩ := (hchosen i s).mpr hs
    unfold Outcome.value
    rw [hchoice]
    rfl
  · unfold Outcome.isMatched
    rcases houtcome with ⟨i, s, hs, hchoice⟩ | ⟨hnone, hchoice⟩
    · rw [hchoice]
      exact iff_of_true rfl ⟨i, s, hs.1, hs.2.1⟩
    · rw [hchoice]
      refine iff_of_false Bool.false_ne_true ?_
      rintro ⟨i, s, hs, happlies⟩
      exact hnone i s hs happlies
  · unfold Outcome.isMatched Outcome.value
    cases o.choice with
    | none => exact fun _ => rfl
    | some c => exact fun h => nomatch h

end Apply

end FeatureFlags.Rollout
