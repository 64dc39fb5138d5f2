import Mathlib.Data.List.Chain
import Mathlib.Data.List.Induction
import FeatureFlags.Proofs.Repository.Convergence

/-!
# The versions of a feature

Deliveries are compared with what is held under their key, but a feature is more than its key: it
can be delivered under another one, and then the old key loses it. So the versions that are taken
in of one feature can go back. A state that is older than the one of its feature that was taken in
last (`isOutdated`) is refused where the feature is held, and can be refused by another feature
that is held under its key; under any other key it is taken in, and takes the newer state away.

As long as nothing is forced, deleted or closed, what is held is always the state of its feature
that was taken in last (`Tracks`). The main statement follows: in a run, the versions of a feature
never decrease exactly if each of its outdated deliveries meets the feature itself, or a state
that is kept in its place, and exactly then none of them changes what is held under any key.
-/

set_option autoImplicit false

namespace FeatureFlags.Repository

/-- Whether an operation forces nothing, and neither deletes nor closes anything. -/
def Operation.IsUnforced : Operation → Prop
  | .update _ force | .updateAll _ force => force = false
  | .delete _ | .close => False
  | _ => True

/-- The single deliveries of unforced operations are unforced. -/
theorem isUnforced_of_mem_unbatch {ops : List Operation} (h : ∀ op ∈ ops, op.IsUnforced)
    {op : Operation} (hop : op ∈ unbatch ops) : op.IsUnforced := by
  obtain ⟨o, hmem, ho⟩ := List.mem_flatMap.mp hop
  have hunforced := h o hmem
  cases o with
  | updateAll states force =>
    rcases List.mem_append.mp ho with ho | ho
    · obtain ⟨s, -, rfl⟩ := List.mem_map.mp ho
      exact hunforced
    · rw [List.mem_singleton.mp ho]
      exact hunforced
  | _ =>
    rw [List.mem_singleton.mp ho]
    exact hunforced

/-! ### What was taken in -/

/-- The states that operations take in, in order. -/
def takenIn (r : Repository) : List Operation → List FeatureState
  | [] => []
  | op :: ops => (r.taken? op).toList ++ takenIn (r.step op) ops

/-- One more operation adds the state that it takes in. -/
theorem takenIn_concat (r : Repository) (ops : List Operation) (op : Operation) :
    r.takenIn (ops ++ [op]) = r.takenIn ops ++ ((r.run ops).taken? op).toList := by
  induction ops generalizing r with
  | nil => simp [takenIn]
  | cons o ops ih => simp [takenIn, ih]

/-- The last of the states of one feature. -/
def latest? (states : List FeatureState) (id : Uuid) : Option FeatureState :=
  (states.filter fun s => s.id = id).getLast?

/-- One more state is the latest of its identity. -/
theorem latest?_concat (states : List FeatureState) (s : FeatureState) (id : Uuid) :
    latest? (states ++ [s]) id = if s.id = id then some s else latest? states id := by
  unfold latest?
  rw [List.filter_append]
  by_cases h : s.id = id <;> simp [h]

/-- The versions of the states of one feature, in order. -/
def versionsOf (id : Uuid) (states : List FeatureState) : List Int :=
  (states.filter fun s => s.id = id).map FeatureState.effectiveVersion

/-- Whether a state is older than the last one of its feature. -/
def isOutdated (states : List FeatureState) (s : FeatureState) : Bool :=
  (latest? states s.id).any fun q => s.effectiveVersion < q.effectiveVersion

/-- One more state adds its version to those of its identity. -/
theorem versionsOf_concat (id : Uuid) (states : List FeatureState) (s : FeatureState) :
    versionsOf id (states ++ [s]) =
      versionsOf id states ++ if s.id = id then [s.effectiveVersion] else [] := by
  unfold versionsOf
  rw [List.filter_append]
  by_cases h : s.id = id <;> simp [h]

/-- Versions that do not decrease go on not to decrease with a state that is not outdated. -/
theorem pairwise_versionsOf_concat {states : List FeatureState} {s : FeatureState} :
    (versionsOf s.id (states ++ [s])).Pairwise (· ≤ ·) ↔
      (versionsOf s.id states).Pairwise (· ≤ ·) ∧ isOutdated states s = false := by
  have hlast : (versionsOf s.id states).getLast? =
      (latest? states s.id).map FeatureState.effectiveVersion := by
    unfold versionsOf latest?
    rw [List.getLast?_map]
  rw [versionsOf_concat, if_pos rfl, ← List.isChain_iff_pairwise, ← List.isChain_iff_pairwise,
    List.isChain_append, hlast]
  unfold isOutdated
  cases latest? states s.id <;> simp

/-! ### What is held, without force -/

/-- Whether everything that is held is the last state of its feature, and is indexed. -/
structure Tracks (taken : List FeatureState) (r : Repository) : Prop where
  isClosed_eq : r.isClosed = false
  indexed : ∀ {k p}, r.stateOf? k = some p → r.keyById? p.id = some k
  latest : ∀ {k p}, r.stateOf? k = some p → latest? taken p.id = some p

/-- Nothing was taken into a new repository. -/
theorem tracks_new : Tracks [] new where
  isClosed_eq := rfl
  indexed hk := nomatch hk
  latest hk := nomatch hk

/-- Without force, what is taken in was delivered as an update. -/
theorem taken?_eq_some_iff {r : Repository} {op : Operation} {s : FeatureState}
    (h : op.IsUnforced) : r.taken? op = some s ↔ op = .update s false ∧ r.Accepts s false := by
  cases op with
  | update t force =>
    obtain rfl : force = false := h
    rw [← updateFeature_snd_iff]
    show (if (r.updateFeature t false).2 = true then some t else none) = some s ↔ _
    constructor
    · intro hs
      split at hs
      · next ha =>
        obtain rfl := Option.some.inj hs
        exact ⟨rfl, ha⟩
      · exact nomatch hs
    · rintro ⟨hop, ha⟩
      obtain ⟨rfl, -⟩ := Operation.update.inj hop
      rw [if_pos ha]
  | delete | close => exact h.elim
  | _ => simp [taken?]

section Steps

variable {taken : List FeatureState} {r : Repository} {s : FeatureState}

/-- A state that is taken in becomes the last one of its feature, wherever it was held before. -/
theorem Tracks.of_accepts (h : Tracks taken r) (hr : Coherent r) (ha : r.Accepts s false) :
    Tracks (taken ++ [s]) (r.updateFeature s false).1 := by
  have hd := delivered_updateFeature hr ha
  -- what another key goes on holding belongs to another feature
  have hother : ∀ {k p}, k ≠ s.key → (r.updateFeature s false).1.stateOf? k = some p →
      r.stateOf? k = some p ∧ s.id ≠ p.id := by
    intro k p hk hp
    rw [hd.stateOf?_eq hr, if_neg hk] at hp
    split at hp
    · exact nomatch hp
    · next hkept =>
      refine ⟨hp, fun hid => hkept ?_⟩
      rw [hid]
      exact h.indexed hp
  have hheld : ∀ {p}, (r.updateFeature s false).1.stateOf? s.key = some p → p = s := by
    intro p hp
    rw [hd.stateOf?_key hr] at hp
    exact (Option.some.inj hp).symm
  constructor
  · exact hd.isClosed_eq.trans h.isClosed_eq
  · intro k p hp
    rw [hd.keyById?_eq hr]
    by_cases hk : k = s.key
    · subst hk
      rw [hheld hp]
      simp
    · obtain ⟨hbefore, hid⟩ := hother hk hp
      rw [if_neg (Ne.symm hid)]
      exact h.indexed hbefore
  · intro k p hp
    rw [latest?_concat]
    by_cases hk : k = s.key
    · subst hk
      rw [hheld hp, if_pos rfl]
    · obtain ⟨hbefore, hid⟩ := hother hk hp
      rw [if_neg hid]
      exact h.latest hbefore

/-- A quiet step keeps track of what was taken in. -/
theorem Tracks.of_quiet {r' : Repository} (h : Tracks taken r) (hr : Coherent r)
    (hq : Quiet r r') : Tracks taken r' where
  isClosed_eq := hq.isClosed_eq.trans h.isClosed_eq
  indexed hp := by
    rw [hq.stateOf?_eq] at hp
    rw [hq.keyById?_eq hr]
    exact h.indexed hp
  latest hp := by
    rw [hq.stateOf?_eq] at hp
    exact h.latest hp

/-- An unforced operation keeps track of what was taken in and adds its own state. -/
theorem Tracks.step {op : Operation} (h : Tracks taken r) (hr : Coherent r) (hs : op.IsSingle)
    (hu : op.IsUnforced) : Tracks (taken ++ (r.taken? op).toList) (r.step op) := by
  cases ht : r.taken? op with
  | some held =>
    obtain ⟨rfl, ha⟩ := (taken?_eq_some_iff hu).mp ht
    exact h.of_accepts hr ha
  | none =>
    have hclose : op ≠ .close := by
      rintro rfl
      exact hu
    simpa using h.of_quiet hr (quiet_step hs ht hclose)

/-- An outdated state is kept out by its own feature, or by a state that is held in its place. -/
theorem Tracks.accepts_iff (h : Tracks taken r) (ho : isOutdated taken s = true) :
    r.Accepts s false ↔ ¬ ∃ p, r.stateOf? s.key = some p ∧ (p.id = s.id ∨ isStale p s = true) := by
  constructor
  · rintro ha ⟨p, hp, hid | hstale⟩
    · -- the feature holds its last state, which is newer
      have hlatest := h.latest hp
      rw [hid] at hlatest
      unfold isOutdated at ho
      rw [hlatest, Option.any_some, decide_eq_true_eq] at ho
      have hle := le_of_accepts ha hp
      omega
    · exact ha.2 ⟨rfl, p, hp, hstale⟩
  · intro hno
    refine ⟨h.isClosed_eq, ?_⟩
    rintro ⟨-, p, hp, hstale⟩
    exact hno ⟨p, hp, Or.inr hstale⟩

/-- An outdated state is taken in exactly if it changes what is held or indexed. -/
theorem Tracks.accepts_iff_changes (h : Tracks taken r) (hr : Coherent r)
    (ho : isOutdated taken s = true) :
    r.Accepts s false ↔ ¬ ((∀ k, (r.updateFeature s false).1.stateOf? k = r.stateOf? k) ∧
      ∀ id, (r.updateFeature s false).1.featureById? id = r.featureById? id) := by
  constructor
  · rintro ha ⟨hsame, -⟩
    have hheld : r.stateOf? s.key = some s := by
      rw [← hsame, (delivered_updateFeature hr ha).stateOf?_key hr]
    unfold isOutdated at ho
    rw [h.latest hheld, Option.any_some, decide_eq_true_eq] at ho
    exact absurd ho (Int.lt_irrefl _)
  · intro hchanges
    by_contra ha
    have hquiet := quiet_updateFeature ha
    exact hchanges ⟨hquiet.stateOf?_eq, hquiet.featureById?_eq⟩

end Steps

/-! ### Runs -/

/-- Unforced operations keep track of all that they take in. -/
theorem tracks_run {ops : List Operation} (h : ∀ op ∈ ops, op.IsSingle ∧ op.IsUnforced) :
    Tracks (new.takenIn ops) (new.run ops) := by
  induction ops using List.reverseRecOn with
  | nil => exact tracks_new
  | append_singleton ops op ih =>
    obtain ⟨hs, hu⟩ := h op (by simp)
    have hbefore := ih fun o ho => h o (by simp [ho])
    rw [takenIn_concat, run_append, run_cons, run_nil]
    exact hbefore.step (coherent_after ops) hs hu

/-- Versions decrease with the first outdated state that is taken in. -/
theorem pairwise_versionsOf_iff {ops : List Operation} (h : ∀ op ∈ ops, op.IsUnforced)
    (id : Uuid) :
    (versionsOf id (new.takenIn ops)).Pairwise (· ≤ ·) ↔
      ∀ es s, es ++ [.update s false] <+: ops → s.id = id → (new.run es).Accepts s false →
        isOutdated (new.takenIn es) s = false := by
  induction ops using List.reverseRecOn with
  | nil =>
    refine iff_of_true List.Pairwise.nil fun es s hes => ?_
    exact absurd (List.prefix_nil.mp hes) (by simp)
  | append_singleton ops op ih =>
    have hbefore := ih fun o ho => h o (by simp [ho])
    have hu : op.IsUnforced := h op (by simp)
    -- the last operation is the delivery that is asked about, or that one came before
    have hsplit : ∀ es s, es ++ [.update s false] <+: ops ++ [op] ↔
        es = ops ∧ .update s false = op ∨ es ++ [.update s false] <+: ops := by
      intro es s
      rw [List.prefix_concat_iff, List.append_singleton_inj]
    have hlater : (∀ es s, es ++ [.update s false] <+: ops ++ [op] → s.id = id →
        (new.run es).Accepts s false → isOutdated (new.takenIn es) s = false) ↔
        (versionsOf id (new.takenIn ops)).Pairwise (· ≤ ·) ∧
          ∀ s, (new.run ops).taken? op = some s → s.id = id →
            isOutdated (new.takenIn ops) s = false := by
      rw [hbefore]
      constructor
      · intro hall
        refine ⟨fun es s hes => hall es s ((hsplit es s).mpr (Or.inr hes)), fun s ht hid => ?_⟩
        obtain ⟨rfl, ha⟩ := (taken?_eq_some_iff hu).mp ht
        exact hall ops s ((hsplit ops s).mpr (Or.inl ⟨rfl, rfl⟩)) hid ha
      · rintro ⟨hall, hlast⟩ es s hes hid ha
        rcases (hsplit es s).mp hes with ⟨rfl, rfl⟩ | hes
        · exact hlast s ((taken?_eq_some_iff hu).mpr ⟨rfl, ha⟩) hid
        · exact hall es s hes hid ha
    rw [hlater, takenIn_concat]
    cases ht : (new.run ops).taken? op with
    | none => simp
    | some s =>
      rw [Option.toList_some]
      by_cases hid : s.id = id
      · subst hid
        rw [pairwise_versionsOf_concat]
        simp
      · rw [versionsOf_concat, if_neg hid, List.append_nil]
        simp [hid]

/-- Whether every outdated delivery of a feature meets, under its key, the feature itself or a
state that is kept in its place. -/
def NeverSlipsIn (id : Uuid) (ops : List Operation) : Prop :=
  ∀ es s, es ++ [.update s false] <+: unbatch ops → s.id = id →
    isOutdated (new.takenIn es) s = true →
      ∃ p, (new.run es).stateOf? s.key = some p ∧ (p.id = s.id ∨ isStale p s = true)

/-- Whether no outdated delivery of a feature changes what is held under any key, or what any
identity leads to. -/
def SparesNewer (id : Uuid) (ops : List Operation) : Prop :=
  ∀ es s, es ++ [.update s false] <+: unbatch ops → s.id = id →
    isOutdated (new.takenIn es) s = true →
      (∀ k, ((new.run es).updateFeature s false).1.stateOf? k = (new.run es).stateOf? k) ∧
        ∀ i, ((new.run es).updateFeature s false).1.featureById? i = (new.run es).featureById? i

/-- Without force, deletions and closes, the versions that are taken in of a feature never
decrease exactly if no outdated delivery of it slips in under a key that holds neither the feature
nor a state that is kept in its place. Exactly then, outdated deliveries change nothing. -/
theorem versions_never_decrease_iff {ops : List Operation} (h : ∀ op ∈ ops, op.IsUnforced)
    (id : Uuid) :
    ((versionsOf id (new.takenIn (unbatch ops))).Pairwise (· ≤ ·) ↔ NeverSlipsIn id ops) ∧
      (SparesNewer id ops ↔ NeverSlipsIn id ops) := by
  have hunforced : ∀ op ∈ unbatch ops, op.IsUnforced := fun _ => isUnforced_of_mem_unbatch h
  have htracks : ∀ es s, es ++ [.update s false] <+: unbatch ops →
      Tracks (new.takenIn es) (new.run es) := by
    intro es s hes
    refine tracks_run fun op hop => ?_
    have hmem : op ∈ unbatch ops := hes.subset (List.mem_append_left _ hop)
    exact ⟨isSingle_of_mem_unbatch hmem, hunforced op hmem⟩
  constructor
  · rw [pairwise_versionsOf_iff hunforced]
    refine forall₄_congr fun es s hes hid => ?_
    cases ho : isOutdated (new.takenIn es) s with
    | true =>
      rw [(htracks es s hes).accepts_iff ho]
      simp only [Bool.true_eq_false, imp_false, Classical.not_not, forall_const]
    | false => simp
  · refine forall₄_congr fun es s hes hid => forall_congr' fun ho => ?_
    have hmeets := (htracks es s hes).accepts_iff ho
    rw [(htracks es s hes).accepts_iff_changes (coherent_after es) ho] at hmeets
    exact not_iff_not.mp hmeets

/-- A feature that is renamed, and whose former key goes to a newer feature, is safe from what
arrives late. -/
theorem versions_of_reused_key :
    let ops : List Operation :=
      [.update (sampleFlag 1 "a" 1) false,
        .updateAll [sampleFlag 1 "b" 5, sampleFlag 2 "a" 3] false,
        .update (sampleFlag 1 "a" 2) false, .update (sampleFlag 1 "b" 4) false]
    (∀ op ∈ ops, op.IsUnforced) ∧
      versionsOf (sampleId 1) (new.takenIn (unbatch ops)) = [1, 5] ∧
      NeverSlipsIn (sampleId 1) ops ∧ SparesNewer (sampleId 1) ops := by
  intro ops
  have hunforced : ∀ op ∈ ops, op.IsUnforced := by simp [ops, Operation.IsUnforced]
  have hversions : versionsOf (sampleId 1) (new.takenIn (unbatch ops)) = [1, 5] := by decide
  obtain ⟨hmonotone, hspares⟩ := versions_never_decrease_iff hunforced (sampleId 1)
  have hnever := hmonotone.mp (by rw [hversions]; decide)
  exact ⟨hunforced, hversions, hnever, hspares.mpr hnever⟩

/-- A late delivery under a key that a feature had before takes the feature back. -/
theorem late_delivery_takes_back :
    ¬ ∀ (ops : List Operation), (∀ op ∈ ops, op.IsUnforced) → ∀ id,
      (versionsOf id (new.takenIn (unbatch ops))).Pairwise (· ≤ ·) := by
  intro h
  have hwrong := h [.update (sampleFlag 1 "a" 1) false, .update (sampleFlag 1 "b" 5) false,
    .update (sampleFlag 1 "a" 2) false] (by simp [Operation.IsUnforced]) (sampleId 1)
  exact absurd hwrong (by decide)

end FeatureFlags.Repository
