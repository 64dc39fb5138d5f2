import FeatureFlags.Proofs.Repository.Steps

/-!
# Batches of newer states

A batch of states with distinct keys and identities, each newer than what it meets, is taken in
state by state. `overlay` is what one of them does to the states under the keys: it puts itself
under its own key and empties the key that the index of identities gives for it. The batch is
the fold of `overlay` over the index as it was before the batch (`overlaid_updateEach`), since no
two states of the batch have one identity.

Read off the fold, a state of the batch stays under its key unless a later one empties this key,
and a key outside the batch keeps its state unless one of the batch empties it. The index is not
always right, so that both can happen: two features that exchange their keys in one batch are not
both there afterwards (`exchange_loses_feature`). The main statement says exactly when a batch is
applied as a whole.
-/

set_option autoImplicit false

namespace FeatureFlags.Repository

/-! ### The fold over a batch -/

/-- What is held under each key when a state is taken in. -/
def overlay (index : Uuid → Option String) (held : String → Option FeatureState)
    (s : FeatureState) (k : String) : Option FeatureState :=
  if k = s.key then some s else if index s.id = some k then none else held k

section Overlay

variable {index : Uuid → Option String} {states : List FeatureState}

/-- A key outside the batch keeps what it holds if nothing of the batch empties it. -/
theorem foldl_overlay_eq_some_iff {k : String} (hk : k ∉ states.map FeatureState.key)
    {held : String → Option FeatureState} {p : FeatureState} :
    states.foldl (overlay index) held k = some p ↔
      held k = some p ∧ ∀ t ∈ states, index t.id ≠ some k := by
  induction states generalizing held with
  | nil => simp
  | cons s rest ih =>
    simp only [List.map_cons, List.mem_cons, not_or] at hk
    rw [List.foldl_cons, ih hk.2, List.forall_mem_cons]
    unfold overlay
    rw [if_neg hk.1]
    by_cases hs : index s.id = some k
    · simp [hs]
    · simp [hs]

/-- The states of a batch are all held afterwards if none has the key that the index gives for a
later one. -/
theorem foldl_overlay_stored_iff (hkeys : (states.map FeatureState.key).Nodup)
    (held : String → Option FeatureState) :
    (∀ s ∈ states, states.foldl (overlay index) held s.key = some s) ↔
      states.Pairwise fun s t => index t.id ≠ some s.key := by
  induction states generalizing held with
  | nil => simp
  | cons s rest ih =>
    simp only [List.map_cons, List.nodup_cons] at hkeys
    have hself : overlay index held s s.key = some s := by simp [overlay]
    rw [List.forall_mem_cons, List.pairwise_cons]
    simp only [List.foldl_cons]
    rw [ih hkeys.2, foldl_overlay_eq_some_iff hkeys.1, hself]
    simp

/-- Only what the index gives for the identities of the batch matters. -/
theorem foldl_overlay_congr {index' : Uuid → Option String}
    (h : ∀ s ∈ states, index' s.id = index s.id) (held : String → Option FeatureState) :
    states.foldl (overlay index') held = states.foldl (overlay index) held := by
  induction states generalizing held with
  | nil => rfl
  | cons s rest ih =>
    have hs : overlay index' held s = overlay index held s := by
      funext k
      unfold overlay
      rw [h s List.mem_cons_self]
    rw [List.foldl_cons, List.foldl_cons, hs]
    exact ih (fun t ht => h t (List.mem_cons_of_mem s ht)) _

end Overlay

/-! ### Delivering a batch -/

/-- A batch of states with distinct keys and identities, each newer than the state under its key
and than every state of its identity. -/
structure NewerBatch (r : Repository) (states : List FeatureState) : Prop where
  /-- No key occurs twice. -/
  keys_nodup : (states.map FeatureState.key).Nodup
  /-- No identity occurs twice. -/
  ids_nodup : (states.map FeatureState.id).Nodup
  /-- What is under the key is older. -/
  newer_than_key : ∀ s ∈ states, ∀ p, r.stateOf? s.key = some p →
    p.effectiveVersion < s.effectiveVersion
  /-- What holds the identity is older. -/
  newer_than_holder : ∀ s ∈ states, ∀ k p, r.stateOf? k = some p → p.id = s.id →
    p.effectiveVersion < s.effectiveVersion

/-- Whether a batch is newer can be read off the entries. -/
theorem NewerBatch.of_entries {r : Repository} {states : List FeatureState} (h : Coherent r)
    (hkeys : (states.map FeatureState.key).Nodup) (hids : (states.map FeatureState.id).Nodup)
    (hnewer : ∀ s ∈ states, ∀ e ∈ r.entries, ∀ p ∈ e.state, e.key = s.key ∨ p.id = s.id →
      p.effectiveVersion < s.effectiveVersion) : NewerBatch r states := by
  have hmem : ∀ k p, r.stateOf? k = some p → ∃ e ∈ r.entries, e.key = k ∧ e.state = some p := by
    intro k p hp
    obtain ⟨e, hk, hstate⟩ := exists_lookup?_of_stateOf? hp
    have hlt : e < r.entries.length := h.lt_length hk
    have hentry : r.entries[e] = r.entry e := by
      simp [entry, List.getElem?_eq_getElem hlt]
    exact ⟨r.entry e, hentry ▸ List.getElem_mem _, h.key_eq hk, hstate⟩
  refine ⟨hkeys, hids, fun s hs p hp => ?_, fun s hs k p hp hid => ?_⟩
  · obtain ⟨e, he, hkey, hstate⟩ := hmem s.key p hp
    exact hnewer s hs e he p hstate (Or.inl hkey)
  · obtain ⟨e, he, -, hstate⟩ := hmem k p hp
    exact hnewer s hs e he p hstate (Or.inr hid)

/-- `r'` is `r` with a batch laid over it. -/
structure Overlaid (r : Repository) (states : List FeatureState) (r' : Repository) : Prop where
  /-- The indices fit the entries. -/
  coherent : Coherent r'
  /-- What is held under each key. -/
  stateOf?_eq : ∀ k, r'.stateOf? k = states.foldl (overlay r.keyById?) r.stateOf? k
  /-- The identities of the batch lead to its keys. -/
  keyById?_of_mem : ∀ s ∈ states, r'.keyById? s.id = some s.key
  /-- Other identities lead to where they led before. -/
  keyById?_of_not_mem : ∀ id, id ∉ states.map FeatureState.id → r'.keyById? id = r.keyById? id
  /-- The keys of the batch have entries. -/
  lookup?_of_mem : ∀ s ∈ states, ∃ e, r'.lookup? s.key = some e
  /-- Keys that have entries keep them. -/
  lookup?_of_some : ∀ k e, r.lookup? k = some e → r'.lookup? k = some e
  /-- Whoever follows an entry goes on following it. -/
  listeners_eq : ∀ e, (r'.entry e).listeners = (r.entry e).listeners

/-- A state that is newer than the one under its key is taken in. -/
theorem accepts_of_newer {r : Repository} {s : FeatureState} (ho : r.isClosed = false)
    (h : ∀ p, r.stateOf? s.key = some p → p.effectiveVersion < s.effectiveVersion) :
    r.Accepts s false := by
  refine ⟨ho, ?_⟩
  rintro ⟨-, p, hp, hstale⟩
  have hlt := h p hp
  have hle : ¬ s.effectiveVersion < p.effectiveVersion := by omega
  have hne : p.effectiveVersion ≠ s.effectiveVersion := by omega
  simp [isStale, hle, hne] at hstale

/-- After the first state of a newer batch was delivered the rest is a newer batch. -/
theorem Delivered.newerBatch {r r' : Repository} {s : FeatureState} {rest : List FeatureState}
    (hd : Delivered r s true r') (h : Coherent r) (hb : NewerBatch r (s :: rest)) :
    NewerBatch r' rest := by
  have hkeys := hb.keys_nodup
  have hids := hb.ids_nodup
  simp only [List.map_cons, List.nodup_cons] at hkeys hids
  -- what is held after the delivery is the new state or was held before
  have hheld : ∀ k p, r'.stateOf? k = some p → k = s.key ∧ p = s ∨ r.stateOf? k = some p := by
    intro k p hp
    rw [hd.stateOf?_eq h] at hp
    split at hp
    · next hk => exact Or.inl ⟨hk, (Option.some.inj hp).symm⟩
    · split at hp
      · exact nomatch hp
      · exact Or.inr hp
  refine ⟨hkeys.2, hids.2, ?_, ?_⟩
  · intro t ht p hp
    rcases hheld t.key p hp with ⟨hk, -⟩ | hp'
    · exact absurd (hk ▸ List.mem_map_of_mem ht) hkeys.1
    · exact hb.newer_than_key t (List.mem_cons_of_mem s ht) p hp'
  · intro t ht k p hp hid
    rcases hheld k p hp with ⟨-, rfl⟩ | hp'
    · exact absurd (hid ▸ List.mem_map_of_mem ht) hids.1
    · exact hb.newer_than_holder t (List.mem_cons_of_mem s ht) k p hp' hid

/-- A batch of newer states is laid over the repository. -/
theorem overlaid_updateEach {r : Repository} {states : List FeatureState} (h : Coherent r)
    (ho : r.isClosed = false) (hb : NewerBatch r states) :
    Overlaid r states (r.updateEach states false) := by
  induction states generalizing r with
  | nil =>
    exact ⟨h, fun _ => rfl, fun s hs => (nomatch hs), fun _ _ => rfl, fun s hs => (nomatch hs),
      fun _ _ hk => hk, fun _ => rfl⟩
  | cons s rest ih =>
    have ha : r.Accepts s false := accepts_of_newer ho (hb.newer_than_key s List.mem_cons_self)
    have hd := delivered_updateFeature h ha
    have h₁ : Coherent (r.updateFeature s false).1 := hd.coherent h ho fun hi => nomatch hi
    have ho₁ : (r.updateFeature s false).1.isClosed = false := hd.isClosed_eq.trans ho
    have hov : Overlaid (r.updateFeature s false).1 rest (r.updateEach (s :: rest) false) :=
      ih h₁ ho₁ (hd.newerBatch h hb)
    have hfirst : (r.updateFeature s false).1.stateOf? = overlay r.keyById? r.stateOf? s :=
      funext (hd.stateOf?_eq h)
    have hids := hb.ids_nodup
    simp only [List.map_cons, List.nodup_cons] at hids
    -- the first state moves its own identity only, so that the others are renamed as they were
    -- before
    have hindex : ∀ t ∈ rest, (r.updateFeature s false).1.keyById? t.id = r.keyById? t.id := by
      intro t ht
      have hne : t.id ≠ s.id := fun heq => hids.1 (heq ▸ List.mem_map_of_mem ht)
      rw [hd.keyById?_eq h, if_neg hne]
    constructor
    · exact hov.coherent
    · intro k
      rw [hov.stateOf?_eq, foldl_overlay_congr hindex, List.foldl_cons, hfirst]
    · intro t ht
      rcases List.mem_cons.mp ht with rfl | ht
      · rw [hov.keyById?_of_not_mem _ hids.1, hd.keyById?_eq h, if_pos rfl, if_pos rfl]
      · exact hov.keyById?_of_mem t ht
    · intro id hid
      simp only [List.map_cons, List.mem_cons, not_or] at hid
      rw [hov.keyById?_of_not_mem id hid.2, hd.keyById?_eq h, if_neg hid.1]
    · intro t ht
      rcases List.mem_cons.mp ht with rfl | ht
      · exact ⟨_, hov.lookup?_of_some _ _ hd.lookup?_key⟩
      · exact hov.lookup?_of_mem t ht
    · intro k e hk
      exact hov.lookup?_of_some k e (hd.lookup?_of_some hk)
    · intro e
      rw [hov.listeners_eq, hd.listeners_eq]

/-- The end of a batch changes nothing that the batch left. -/
theorem overlaid_updateFeatures {r : Repository} {states : List FeatureState} (h : Coherent r)
    (ho : r.isClosed = false) (hb : NewerBatch r states) :
    Overlaid r states (r.updateFeatures states false) := by
  have hov := overlaid_updateEach h ho hb
  have hc : (r.updateFeatures states false).contents = (r.updateEach states false).contents := by
    rw [contents_updateFeatures, ho]
    rfl
  have ha := Alike.of_contents hc
  refine ⟨hov.coherent.of_alike ha, fun k => ?_, fun s hs => ?_, fun id hid => ?_, fun s hs => ?_,
    fun k e hk => ?_, fun e => ?_⟩
  · rw [ha.stateOf?_eq]
    exact hov.stateOf?_eq k
  · rw [ha.keyById?_eq]
    exact hov.keyById?_of_mem s hs
  · rw [ha.keyById?_eq]
    exact hov.keyById?_of_not_mem id hid
  · rw [ha.lookup?_eq]
    exact hov.lookup?_of_mem s hs
  · rw [ha.lookup?_eq]
    exact hov.lookup?_of_some k e hk
  · rw [entry_of_contents hc]
    exact hov.listeners_eq e

/-! ### When a batch is applied as a whole -/

/-- `r'` holds every state of the batch, where its key and its identity lead to, and all that has
neither a key nor an identity of the batch is as in `r`. -/
structure Applied (r : Repository) (states : List FeatureState) (r' : Repository) : Prop where
  /-- The states of the batch are found by their keys and by their identities. -/
  stored : ∀ s ∈ states, ∃ e, r'.lookup? s.key = some e ∧ (r'.entry e).state = some s ∧
    r'.featureById? s.id = some e
  /-- Entries that the batch does not concern are left alone. -/
  unchanged : ∀ k e, r.lookup? k = some e → k ∉ states.map FeatureState.key →
    (∀ p, (r.entry e).state = some p → p.id ∉ states.map FeatureState.id) →
    r'.lookup? k = some e ∧ r'.entry e = r.entry e

/-- No state of the batch empties, as a rename by the index, what the batch should leave there. -/
structure Undisturbed (r : Repository) (states : List FeatureState) : Prop where
  /-- The index gives for no state of the batch the key of an earlier one. -/
  keeps_earlier : states.Pairwise fun s t => r.keyById? t.id ≠ some s.key
  /-- A key outside the batch that the index gives for a state of the batch holds nothing, or a
  feature of the batch. -/
  keeps_others : ∀ t ∈ states, ∀ k p, r.keyById? t.id = some k →
    k ∉ states.map FeatureState.key → r.stateOf? k = some p → p.id ∈ states.map FeatureState.id

section Overlaid

variable {r r' : Repository} {states : List FeatureState}

/-- A batch that was laid over a repository stands there as a whole exactly if no state takes the
key of an earlier one by the index of identities. -/
theorem Overlaid.stored_iff (hov : Overlaid r states r')
    (hkeys : (states.map FeatureState.key).Nodup) :
    (∀ s ∈ states, ∃ e, r'.lookup? s.key = some e ∧ (r'.entry e).state = some s ∧
      r'.featureById? s.id = some e) ↔
      states.Pairwise fun s t => r.keyById? t.id ≠ some s.key := by
  rw [← foldl_overlay_stored_iff hkeys r.stateOf?]
  refine forall_congr' fun s => imp_congr_right fun hs => ?_
  obtain ⟨e, he⟩ := hov.lookup?_of_mem s hs
  have hindex : r'.featureById? s.id = some e := by
    rw [hov.coherent.featureById?_eq, hov.keyById?_of_mem s hs]
    exact he
  rw [← hov.stateOf?_eq, stateOf?_of_lookup? he]
  constructor
  · rintro ⟨e', he', hstate, -⟩
    rw [he, Option.some.injEq] at he'
    rw [he']
    exact hstate
  · exact fun hstate => ⟨e, he, hstate, hindex⟩

/-- An entry outside the batch is left alone if it keeps its state. -/
theorem Overlaid.entry_eq_iff (hov : Overlaid r states r') (h : Coherent r) {k : String}
    {e : EntryId} (hk : r.lookup? k = some e) (hnot : k ∉ states.map FeatureState.key) :
    r'.entry e = r.entry e ↔
      ∀ p, r.stateOf? k = some p → ∀ t ∈ states, r.keyById? t.id ≠ some k := by
  have hk' := hov.lookup?_of_some k e hk
  have hkey : (r'.entry e).key = (r.entry e).key :=
    (hov.coherent.key_eq hk').trans (h.key_eq hk).symm
  have hsame : r'.entry e = r.entry e ↔ r'.stateOf? k = r.stateOf? k := by
    rw [stateOf?_of_lookup? hk, stateOf?_of_lookup? hk']
    constructor
    · exact fun heq => congrArg Entry.state heq
    · exact fun hstate => entry_eq_of hkey hstate (hov.listeners_eq e)
  rw [hsame, hov.stateOf?_eq]
  cases hheld : r.stateOf? k with
  | none =>
    refine iff_of_true ?_ fun p hp => nomatch hp
    cases hfold : states.foldl (overlay r.keyById?) r.stateOf? k with
    | none => rfl
    | some p =>
      have hp := ((foldl_overlay_eq_some_iff hnot).mp hfold).1
      rw [hheld] at hp
      exact nomatch hp
  | some p =>
    rw [foldl_overlay_eq_some_iff hnot, hheld]
    simp

end Overlaid

/-- A batch of newer states is applied as a whole exactly if, by the index of identities, none of
its states is a rename of a key that an earlier state of the batch has taken, or of a key outside
the batch that holds a feature outside the batch. -/
theorem applied_updateFeatures_iff {r : Repository} {states : List FeatureState}
    (hr : Reachable r) (ho : r.isClosed = false) (hb : NewerBatch r states) :
    Applied r states (r.updateFeatures states false) ↔ Undisturbed r states := by
  have h := hr.coherent
  have hov := overlaid_updateFeatures h ho hb
  constructor
  · intro happ
    refine ⟨(hov.stored_iff hb.keys_nodup).mp happ.stored, fun t ht k p hindex hnot hp => ?_⟩
    obtain ⟨e, hk, hstate⟩ := exists_lookup?_of_stateOf? hp
    refine Classical.byContradiction fun hid => ?_
    have hothers : ∀ q, (r.entry e).state = some q → q.id ∉ states.map FeatureState.id := by
      intro q hq
      rw [hstate, Option.some.injEq] at hq
      rw [← hq]
      exact hid
    have heq := (happ.unchanged k e hk hnot hothers).2
    exact (hov.entry_eq_iff h hk hnot).mp heq p hp t ht hindex
  · intro hun
    refine ⟨(hov.stored_iff hb.keys_nodup).mpr hun.keeps_earlier, fun k e hk hnot hothers => ?_⟩
    refine ⟨hov.lookup?_of_some k e hk, (hov.entry_eq_iff h hk hnot).mpr ?_⟩
    intro p hp t ht hindex
    have hid := hun.keeps_others t ht k p hindex hnot hp
    rw [stateOf?_of_lookup? hk] at hp
    exact hothers p hp hid

/-- Two features, one of which can be renamed to a third key and the other to the first one's
key: the key has to be given up before it is taken. -/
theorem applied_updateFeatures_renames :
    let r := after [.updateAll [sampleFlag 1 "a" 1, sampleFlag 2 "b" 1] false]
    let states := [sampleFlag 2 "c" 2, sampleFlag 1 "b" 2]
    r.isClosed = false ∧ NewerBatch r states ∧ Undisturbed r states ∧
      Applied r states (r.updateFeatures states false) := by
  intro r states
  have hr : Reachable r := ⟨_, rfl⟩
  have ho : r.isClosed = false := by decide
  have hb : NewerBatch r states :=
    NewerBatch.of_entries hr.coherent (by decide) (by decide) (by decide)
  have hun : Undisturbed r states := by
    refine ⟨by decide, fun t ht k p hk hnot hp => ?_⟩
    rcases List.mem_cons.mp ht with rfl | ht
    · have hb : r.keyById? (sampleId 2) = some "b" := by decide
      rw [show (sampleFlag 2 "c" 2).id = sampleId 2 from rfl, hb, Option.some.injEq] at hk
      subst hk
      exact absurd (by decide) hnot
    · rw [List.mem_singleton.mp ht] at hk
      have ha : r.keyById? (sampleId 1) = some "a" := by decide
      rw [show (sampleFlag 1 "b" 2).id = sampleId 1 from rfl, ha, Option.some.injEq] at hk
      subst hk
      rw [show r.stateOf? "a" = some (sampleFlag 1 "a" 1) from rfl, Option.some.injEq] at hp
      subst hp
      decide
  exact ⟨ho, hb, hun, (applied_updateFeatures_iff hr ho hb).mpr hun⟩

/-- Two features that exchange their keys in one batch are both newer than what is there, but one
of them is lost. -/
theorem exchange_loses_feature :
    ¬ ∀ (r : Repository) (states : List FeatureState), Reachable r → r.isClosed = false →
      NewerBatch r states → Applied r states (r.updateFeatures states false) := by
  intro h
  have hr : Reachable (after [.updateAll [sampleFlag 1 "a" 1, sampleFlag 2 "b" 1] false]) :=
    ⟨_, rfl⟩
  have happ := h _ [sampleFlag 1 "b" 2, sampleFlag 2 "a" 2] hr (by decide)
    (NewerBatch.of_entries hr.coherent (by decide) (by decide) (by decide))
  obtain ⟨e, he, hstate, -⟩ := happ.stored (sampleFlag 1 "b" 2) List.mem_cons_self
  rw [← stateOf?_of_lookup? he] at hstate
  exact absurd (congrArg Option.isSome hstate) (by decide)

end FeatureFlags.Repository
