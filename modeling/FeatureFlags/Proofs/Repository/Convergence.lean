import FeatureFlags.Proofs.Repository.Steps

/-!
# Convergence

States that are delivered without force leave a repository that does not depend on how they were
delivered. If every key belongs to one identity and every identity to one key, each key ends with
the newest state that was delivered for it (`HoldsLatest`): a delivery is refused only if what is
there is at least as new, and since nothing is renamed, no entry is emptied. The order of the
deliveries, repetitions, and the way they are split into batches make no difference.
-/

set_option autoImplicit false

namespace FeatureFlags.Repository

/-! ### Deliveries without force -/

/-- A delivery without force. -/
inductive Delivery where
  /-- One state. -/
  | single (s : FeatureState)
  /-- A batch of states. -/
  | batch (states : List FeatureState)

/-- The states that are delivered. -/
def Delivery.states : Delivery → List FeatureState
  | .single s => [s]
  | .batch states => states

/-- The delivery as an operation. -/
def Delivery.operation : Delivery → Operation
  | .single s => .update s false
  | .batch states => .updateAll states false

/-- The repository after deliveries. -/
def deliver (r : Repository) (ds : List Delivery) : Repository := r.run (ds.map Delivery.operation)

/-- States in which each key belongs to one identity, each identity to one key, and each version
of a key to one state. -/
structure Reconcilable (states : List FeatureState) : Prop where
  /-- A key belongs to one identity. -/
  id_of_key : ∀ s ∈ states, ∀ t ∈ states, s.key = t.key → s.id = t.id
  /-- An identity belongs to one key. -/
  key_of_id : ∀ s ∈ states, ∀ t ∈ states, s.id = t.id → s.key = t.key
  /-- A version of a key belongs to one state. -/
  eq_of_version : ∀ s ∈ states, ∀ t ∈ states, s.key = t.key →
    s.effectiveVersion = t.effectiveVersion → s = t

/-- Whether a state is the newest one for a key. -/
def IsLatest (states : List FeatureState) (k : String) (s : FeatureState) : Prop :=
  s ∈ states ∧ s.key = k ∧ ∀ t ∈ states, t.key = k → t.effectiveVersion ≤ s.effectiveVersion

/-- An open repository in which nothing is held and nothing indexed. -/
structure Vacant (r : Repository) : Prop where
  /-- Some history leads to it. -/
  reachable : Reachable r
  /-- It is open. -/
  isClosed_eq : r.isClosed = false
  /-- No key holds a state. -/
  stateOf?_eq : ∀ k, r.stateOf? k = none
  /-- No identity is indexed. -/
  featureById?_eq : ∀ id, r.featureById? id = none

/-- A new repository is vacant. -/
theorem vacant_new : Vacant new where
  reachable := ⟨[], rfl⟩
  isClosed_eq := rfl
  stateOf?_eq _ := rfl
  featureById?_eq _ := rfl

/-- The repository holds the newest of the given states for each key, and the index of identities
is that of the states. -/
structure HoldsLatest (states : List FeatureState) (r : Repository) : Prop where
  /-- What is held is the newest. -/
  latest : ∀ k s, r.stateOf? k = some s → IsLatest states k s
  /-- Every key of the states holds something. -/
  present : ∀ s ∈ states, ∃ p, r.stateOf? s.key = some p
  /-- The index leads from identities to keys as the states do. -/
  indexed : ∀ id k, r.keyById? id = some k ↔ ∃ s ∈ states, s.id = id ∧ s.key = k

/-! ### What one delivery does -/

/-- The latest state of a key stays the latest when a state is added that is no later one of this
key. -/
theorem IsLatest.append_of_le {states : List FeatureState} {k : String} {p s : FeatureState}
    (h : IsLatest states k p) (hs : s.key = k → s.effectiveVersion ≤ p.effectiveVersion) :
    IsLatest (states ++ [s]) k p := by
  refine ⟨List.mem_append_left _ h.1, h.2.1, fun t ht hk => ?_⟩
  rcases List.mem_append.mp ht with ht | ht
  · exact h.2.2 t ht hk
  · rw [List.mem_singleton.mp ht] at hk ⊢
    exact hs hk

/-- A state with an identity and a key is among the states with one more if it was there before or
is the new one. -/
theorem exists_concat_iff {states : List FeatureState} {s : FeatureState} {id : Uuid}
    {k : String} : (∃ t ∈ states ++ [s], t.id = id ∧ t.key = k) ↔
      (∃ t ∈ states, t.id = id ∧ t.key = k) ∨ s.id = id ∧ s.key = k := by
  simp only [List.mem_append, List.mem_singleton, or_and_right, exists_or, exists_eq_left]

/-- A state that is refused is not newer than what is there. -/
theorem le_of_isStale {p s : FeatureState} (h : isStale p s = true) :
    s.effectiveVersion ≤ p.effectiveVersion := by
  unfold isStale at h
  simp only [Bool.or_eq_true, decide_eq_true_eq, Bool.and_eq_true, beq_iff_eq] at h
  omega

/-- A state that is taken in is not older than the one under its key. -/
theorem le_of_accepts {r : Repository} {p s : FeatureState} (ha : r.Accepts s false)
    (hp : r.stateOf? s.key = some p) : p.effectiveVersion ≤ s.effectiveVersion := by
  refine Int.not_lt.mp fun hlt => ha.2 ⟨rfl, p, hp, ?_⟩
  simp [isStale, hlt]

namespace HoldsLatest

variable {all states : List FeatureState} {r : Repository}

/-- A vacant repository holds the latest of no states. -/
theorem of_vacant (h : Vacant r) : HoldsLatest [] r where
  latest k s hs := by
    rw [h.stateOf?_eq] at hs
    exact nomatch hs
  present s hs := nomatch hs
  indexed id k := by simp [keyById?, h.featureById?_eq]

/-- Only which states there are matters, not their order or repetition. -/
theorem congr {states' : List FeatureState} (hl : HoldsLatest states r)
    (h : ∀ s, s ∈ states ↔ s ∈ states') : HoldsLatest states' r := by
  refine ⟨fun k s hs => ?_, fun s hs => hl.present s ((h s).mpr hs), fun id k => ?_⟩
  · obtain ⟨hmem, hk, hmax⟩ := hl.latest k s hs
    exact ⟨(h s).mp hmem, hk, fun t ht => hmax t ((h t).mpr ht)⟩
  · simp only [hl.indexed, h]

/-- A state that is taken in is the latest of its key. -/
theorem isLatest_of_accepts (hl : HoldsLatest states r) {s : FeatureState}
    (ha : r.Accepts s false) : IsLatest (states ++ [s]) s.key s := by
  refine ⟨by simp, rfl, fun t ht hkey => ?_⟩
  rcases List.mem_append.mp ht with ht | ht
  · obtain ⟨p, hp⟩ := hl.present t ht
    have hle : t.effectiveVersion ≤ p.effectiveVersion := (hl.latest t.key p hp).2.2 t ht rfl
    rw [hkey] at hp
    exact Int.le_trans hle (le_of_accepts ha hp)
  · have heq : t.effectiveVersion = s.effectiveVersion :=
      congrArg FeatureState.effectiveVersion (List.mem_singleton.mp ht)
    exact Int.le_of_eq heq

/-- What reads alike holds the same latest states. -/
theorem of_alike {r' : Repository} (hl : HoldsLatest states r) (ha : Alike r r') :
    HoldsLatest states r' where
  latest k s hs := hl.latest k s (ha.stateOf?_eq k ▸ hs)
  present s hs := by
    rw [ha.stateOf?_eq]
    exact hl.present s hs
  indexed id k := by
    rw [ha.keyById?_eq]
    exact hl.indexed id k

/-- A state that is taken in is the newest one of its key. Since the index leads from its identity
to no other key, nothing else changes. -/
theorem of_accepts (hl : HoldsLatest states r) (h : Coherent r) (hc : Reconcilable all)
    (hsub : ∀ t ∈ states, t ∈ all) {s : FeatureState} (hs : s ∈ all) (ha : r.Accepts s false) :
    HoldsLatest (states ++ [s]) (r.updateFeature s false).1 := by
  have hd := delivered_updateFeature h ha
  have hself : (r.updateFeature s false).1.stateOf? s.key = some s := hd.stateOf?_key h
  -- no rename empties another key, since the states of one identity have one key
  have hother : ∀ k, k ≠ s.key → (r.updateFeature s false).1.stateOf? k = r.stateOf? k := by
    intro k hk
    rw [hd.stateOf?_eq h, if_neg hk, if_neg]
    intro hindex
    obtain ⟨t, ht, hid, hkey⟩ := (hl.indexed s.id k).mp hindex
    exact hk (hkey.symm.trans (hc.key_of_id t (hsub t ht) s hs hid))
  refine ⟨fun k p hp => ?_, fun t ht => ?_, fun id k => ?_⟩
  · by_cases hk : k = s.key
    · rw [hk, hself, Option.some.injEq] at hp
      subst hp
      rw [hk]
      exact hl.isLatest_of_accepts ha
    · rw [hother k hk] at hp
      exact (hl.latest k p hp).append_of_le fun hkey => absurd hkey.symm hk
  · by_cases hk : t.key = s.key
    · exact ⟨s, hk ▸ hself⟩
    · rw [hother t.key hk]
      rcases List.mem_append.mp ht with ht | ht
      · exact hl.present t ht
      · exact absurd (congrArg FeatureState.key (List.mem_singleton.mp ht)) hk
  · rw [hd.keyById?_eq h, exists_concat_iff, ← hl.indexed]
    by_cases hid : id = s.id
    · rw [if_pos hid, if_pos rfl, Option.some.injEq]
      constructor
      · exact fun hk => Or.inr ⟨hid.symm, hk⟩
      · rintro (hindex | ⟨-, hk⟩)
        · obtain ⟨t, ht, htid, hk⟩ := (hl.indexed id k).mp hindex
          exact (hc.key_of_id t (hsub t ht) s hs (htid.trans hid)).symm.trans hk
        · exact hk
    · rw [if_neg hid]
      exact (or_iff_left fun hnew => hid hnew.1.symm).symm

/-- A state that is refused is not newer than the one under its key, and its identity and its key
are known. -/
theorem of_not_accepts (hl : HoldsLatest states r) (h : Coherent r) (ho : r.isClosed = false)
    (hc : Reconcilable all) (hsub : ∀ t ∈ states, t ∈ all) {s : FeatureState} (hs : s ∈ all)
    (ha : ¬ r.Accepts s false) : HoldsLatest (states ++ [s]) (r.updateFeature s false).1 := by
  have hq := quiet_updateFeature ha
  have href : r.Refuses s false := Classical.not_not.mp fun hno => ha ⟨ho, hno⟩
  obtain ⟨-, p, hp, hstale⟩ := href
  obtain ⟨hpmem, hpkey, -⟩ := hl.latest s.key p hp
  refine ⟨fun k q hq' => ?_, fun t ht => ?_, fun id k => ?_⟩
  · rw [hq.stateOf?_eq] at hq'
    refine (hl.latest k q hq').append_of_le fun hkey => ?_
    rw [← hkey, hp, Option.some.injEq] at hq'
    rw [← hq']
    exact le_of_isStale hstale
  · rw [hq.stateOf?_eq]
    rcases List.mem_append.mp ht with ht | ht
    · exact hl.present t ht
    · rw [List.mem_singleton.mp ht]
      exact ⟨p, hp⟩
  · rw [hq.keyById?_eq h, hl.indexed, exists_concat_iff]
    have hid : p.id = s.id := hc.id_of_key p (hsub p hpmem) s hs hpkey
    refine (or_iff_left_of_imp ?_).symm
    rintro ⟨hsid, hk⟩
    exact ⟨p, hpmem, hid.trans hsid, hpkey.trans hk⟩

/-- One delivery keeps the newest of all states so far. -/
theorem updateFeature (hl : HoldsLatest states r) (h : Coherent r) (ho : r.isClosed = false)
    (hc : Reconcilable all) (hsub : ∀ t ∈ states, t ∈ all) {s : FeatureState} (hs : s ∈ all) :
    HoldsLatest (states ++ [s]) (r.updateFeature s false).1 := by
  by_cases ha : r.Accepts s false
  · exact hl.of_accepts h hc hsub hs ha
  · exact hl.of_not_accepts h ho hc hsub hs ha

/-- What a run of single deliveries keeps. The states so far grow by one with each of them. -/
theorem updateEach (hc : Reconcilable all) {batch : List FeatureState}
    (hl : HoldsLatest states r) (h : Coherent r) (ho : r.isClosed = false)
    (hsub : ∀ t ∈ states ++ batch, t ∈ all) :
    HoldsLatest (states ++ batch) (r.updateEach batch false) := by
  induction batch generalizing states r with
  | nil =>
    rw [List.append_nil]
    exact hl
  | cons s batch ih =>
    have hone : HoldsLatest (states ++ [s]) (r.updateFeature s false).1 :=
      hl.updateFeature h ho hc (fun t ht => hsub t (List.mem_append_left _ ht)) (hsub s (by simp))
    have hstep : Coherent (r.step (.update s false)) := coherent_step trivial h
    have hopen : (r.updateFeature s false).1.isClosed = false := by
      rw [isClosed_updateFeature, ho]
    have hassoc : states ++ s :: batch = states ++ [s] ++ batch := by simp
    rw [hassoc] at hsub ⊢
    exact ih hone hstep hopen hsub

/-- A batch keeps the newest as single deliveries do: what it does after them concerns the
readiness. -/
theorem updateFeatures (hc : Reconcilable all) {batch : List FeatureState}
    (hl : HoldsLatest states r) (h : Coherent r) (ho : r.isClosed = false)
    (hsub : ∀ t ∈ states ++ batch, t ∈ all) :
    HoldsLatest (states ++ batch) (r.updateFeatures batch false) := by
  refine (hl.updateEach hc h ho hsub).of_alike (Alike.of_contents ?_)
  rw [contents_updateFeatures, ho]
  rfl

/-- Deliveries keep the newest of all states that were delivered. -/
theorem deliver (hc : Reconcilable all) {ds : List Delivery} (hl : HoldsLatest states r)
    (h : Coherent r) (ho : r.isClosed = false)
    (hsub : ∀ t ∈ states ++ ds.flatMap Delivery.states, t ∈ all) :
    HoldsLatest (states ++ ds.flatMap Delivery.states) (r.deliver ds) := by
  induction ds generalizing states r with
  | nil =>
    rw [List.flatMap_nil, List.append_nil]
    exact hl
  | cons d ds ih =>
    have hassoc : states ++ (d :: ds).flatMap Delivery.states =
        states ++ d.states ++ ds.flatMap Delivery.states := by simp
    rw [hassoc] at hsub ⊢
    have hsub' : ∀ t ∈ states ++ d.states, t ∈ all := fun t ht =>
      hsub t (List.mem_append_left _ ht)
    have hcoherent : Coherent (r.step d.operation) := Coherent.run h [d.operation]
    cases d with
    | single s =>
      refine ih (hl.updateFeature h ho hc ?_ ?_) hcoherent ?_ hsub
      · exact fun t ht => hsub' t (List.mem_append_left _ ht)
      · exact hsub' s (by simp [Delivery.states])
      · exact (isClosed_updateFeature r s false).trans ho
    | batch batch =>
      refine ih (hl.updateFeatures hc h ho hsub') hcoherent ?_ hsub
      exact (isClosed_updateFeatures r batch false).trans ho

/-- The newest state for a key is the one that the key holds. -/
theorem stateOf?_eq_some_iff (hl : HoldsLatest states r) (hc : Reconcilable states) {k : String}
    {s : FeatureState} : r.stateOf? k = some s ↔ IsLatest states k s := by
  refine ⟨hl.latest k s, fun ⟨hs, hk, hmax⟩ => ?_⟩
  obtain ⟨p, hp⟩ := hl.present s hs
  rw [hk] at hp
  obtain ⟨hpmem, hpk, hpmax⟩ := hl.latest k p hp
  have heq : p = s := hc.eq_of_version p hpmem s hs (hpk.trans hk.symm)
    (Int.le_antisymm (hmax p hpmem hpk) (hpmax s hs hk))
  rw [hp, heq]

/-- The index of identities leads to the entries of the keys that the states have. -/
theorem featureById?_eq_some_iff (hl : HoldsLatest states r) (h : Coherent r) {id : Uuid}
    {e : EntryId} :
    r.featureById? id = some e ↔ ∃ s ∈ states, s.id = id ∧ r.lookup? s.key = some e := by
  constructor
  · intro hid
    obtain ⟨s, hs, hsid, hk⟩ := (hl.indexed id (r.entry e).key).mp (by simp [keyById?, hid])
    exact ⟨s, hs, hsid, hk ▸ h.in_use hid⟩
  · rintro ⟨s, hs, hsid, he⟩
    have hkey : r.keyById? id = some s.key := (hl.indexed id s.key).mpr ⟨s, hs, hsid, rfl⟩
    rw [h.featureById?_eq, hkey]
    exact he

end HoldsLatest

/-! ### Deliveries in any order -/

/-- However reconcilable states are delivered to a vacant repository, it holds the latest ones in
the end. -/
theorem HoldsLatest.of_deliveries {states : List FeatureState} {r : Repository}
    (hc : Reconcilable states) (hr : Vacant r) {ds : List Delivery}
    (hds : ∀ s, s ∈ ds.flatMap Delivery.states ↔ s ∈ states) :
    HoldsLatest states (r.deliver ds) :=
  ((HoldsLatest.of_vacant hr).deliver hc hr.reachable.coherent hr.isClosed_eq
    fun t ht => (hds t).mp ht).congr hds

/-- Two ways of delivering the same states lead to the same states under all keys and to the same
index of identities. Every key that the states have holds its newest state, and the identity of
the states of a key leads to the entry of the key. -/
theorem deliveries_converge {states : List FeatureState} (hc : Reconcilable states)
    {r r' : Repository} (hr : Vacant r) (hr' : Vacant r') {ds ds' : List Delivery}
    (hds : ∀ s, s ∈ ds.flatMap Delivery.states ↔ s ∈ states)
    (hds' : ∀ s, s ∈ ds'.flatMap Delivery.states ↔ s ∈ states) :
    (∀ k, (r.deliver ds).stateOf? k = (r'.deliver ds').stateOf? k) ∧
    (∀ id, (r.deliver ds).keyById? id = (r'.deliver ds').keyById? id) ∧
    (∀ k s, (r.deliver ds).stateOf? k = some s ↔ IsLatest states k s) ∧
    (∀ s ∈ states, ∃ latest, (r.deliver ds).stateOf? s.key = some latest) ∧
    ∀ id e, (r.deliver ds).featureById? id = some e ↔
      ∃ s ∈ states, s.id = id ∧ (r.deliver ds).lookup? s.key = some e := by
  have hl : HoldsLatest states (r.deliver ds) := .of_deliveries hc hr hds
  have hl' : HoldsLatest states (r'.deliver ds') := .of_deliveries hc hr' hds'
  refine ⟨fun k => ?_, fun id => ?_, fun k s => hl.stateOf?_eq_some_iff hc, hl.present, ?_⟩
  · refine Option.ext fun s => ?_
    rw [hl.stateOf?_eq_some_iff hc, hl'.stateOf?_eq_some_iff hc]
  · refine Option.ext fun k => ?_
    rw [hl.indexed, hl'.indexed]
  · exact fun id e => hl.featureById?_eq_some_iff (hr.reachable.coherent.run _)

/-- A newer state that arrives last, and the same one arriving first with an older one repeated
behind it. -/
theorem deliveries_converge_sample :
    let states := [sampleFlag 1 "a" 1, sampleFlag 2 "b" 1, sampleFlag 1 "a" 2]
    let ds := [Delivery.batch [sampleFlag 1 "a" 1, sampleFlag 2 "b" 1],
      .single (sampleFlag 1 "a" 2)]
    let ds' := [Delivery.single (sampleFlag 1 "a" 2),
      .batch [sampleFlag 2 "b" 1, sampleFlag 1 "a" 1, sampleFlag 1 "a" 1]]
    Reconcilable states ∧ Vacant new ∧
    (∀ s, s ∈ ds.flatMap Delivery.states ↔ s ∈ states) ∧
    (∀ s, s ∈ ds'.flatMap Delivery.states ↔ s ∈ states) ∧
    (∀ k, (new.deliver ds).stateOf? k = (new.deliver ds').stateOf? k) ∧
    ∃ latest, (new.deliver ds).stateOf? "a" = some latest := by
  intro states ds ds'
  have hc : Reconcilable states := by
    refine ⟨by decide, by decide, fun s hs t ht hkey hversion => ?_⟩
    simp only [states, List.mem_cons, List.not_mem_nil, or_false] at hs ht
    rcases hs with rfl | rfl | rfl <;> rcases ht with rfl | rfl | rfl <;>
      first
      | rfl
      | exact absurd hkey (by decide)
      | exact absurd hversion (by decide)
  have hds : ∀ s, s ∈ ds.flatMap Delivery.states ↔ s ∈ states := by
    simp [ds, states, Delivery.states]
  have hds' : ∀ s, s ∈ ds'.flatMap Delivery.states ↔ s ∈ states := by
    intro s
    simp only [ds', states, Delivery.states, List.flatMap_cons, List.flatMap_nil, List.append_nil,
      List.mem_append, List.mem_cons, List.not_mem_nil, or_false]
    grind
  obtain ⟨hstate, -, -, hpresent, -⟩ := deliveries_converge hc vacant_new vacant_new hds hds'
  exact ⟨hc, vacant_new, hds, hds', hstate, hpresent (sampleFlag 1 "a" 1) List.mem_cons_self⟩

end FeatureFlags.Repository
