import FeatureFlags.Proofs.Repository.Steps

/-!
# What a deletion leaves behind

A deletion is delivered like an update that has lost its value, and only if it is taken in are
the version and the index of identities dealt with. So it is refused like an update: of two
states of one version without a value, the second one is no news. The main statement says which
deletions of a feature that is not newer take it away: all but those that meet a state of their
own version without a value, and of these the ones that have nothing left to do.
-/

set_option autoImplicit false

namespace FeatureFlags.Repository

/-- Whether nothing is left of a feature: whoever looks up its key finds an entry without a
feature that exists and without a value, and its identity leads nowhere. -/
structure IsGone (r : Repository) (key : String) (id : Uuid) : Prop where
  /-- The entry holds no feature that exists. -/
  not_exists : ((r.getFeature key).1.entry (r.getFeature key).2).doesExist = false
  /-- The entry has no value. -/
  no_value : ((r.getFeature key).1.entry (r.getFeature key).2).value = none
  /-- The identity leads to no entry. -/
  not_found : r.featureById? id = none

/-- What is gone can be read off the state under the key. -/
theorem isGone_iff {r : Repository} {key : String} {id : Uuid} :
    IsGone r key id ↔
      (∀ s, r.stateOf? key = some s → s.doesExist = false ∧ s.value = none) ∧
        r.featureById? id = none := by
  have hstate := state_getFeature r key
  constructor
  · intro h
    refine ⟨fun s hs => ?_, h.not_found⟩
    have hexists := h.not_exists
    have hvalue := h.no_value
    unfold Entry.doesExist at hexists
    unfold Entry.value at hvalue
    rw [hstate, hs] at hexists hvalue
    exact ⟨hexists, hvalue⟩
  · rintro ⟨h, hid⟩
    constructor
    · unfold Entry.doesExist
      rw [hstate]
      cases hs : r.stateOf? key with
      | none => rfl
      | some s => exact (h s hs).1
    · unfold Entry.value
      rw [hstate]
      cases hs : r.stateOf? key with
      | none => rfl
      | some s => exact (h s hs).2
    · exact hid

/-- A value is the same as none only if there is none. -/
theorem sameOptional_none_iff (x : Option Json) : Json.sameOptional x none = true ↔ x = none := by
  cases x <;> simp [Json.sameOptional]

/-- A deletion that is not older is refused by a state of its version without a value. -/
theorem refuses_deletion_iff {r : Repository} {d : FeatureState}
    (hv : ∀ p, r.stateOf? d.key = some p → p.effectiveVersion ≤ d.effectiveVersion) :
    r.Refuses { d with value := none } false ↔
      ∃ p, r.stateOf? d.key = some p ∧ p.effectiveVersion = d.effectiveVersion ∧
        p.value = none := by
  have hstale : ∀ p, r.stateOf? d.key = some p →
      (isStale p { d with value := none } = true ↔
        p.effectiveVersion = d.effectiveVersion ∧ p.value = none) := by
    intro p hp
    have hle : ¬ d.effectiveVersion < p.effectiveVersion := Int.not_lt.mpr (hv p hp)
    have hsame : ({ d with value := none } : FeatureState).effectiveVersion =
        d.effectiveVersion := rfl
    unfold isStale
    rw [hsame]
    simp [hle, sameOptional_none_iff]
  constructor
  · rintro ⟨-, p, hp, hst⟩
    exact ⟨p, hp, (hstale p hp).mp hst⟩
  · rintro ⟨p, hp, hsame⟩
    exact ⟨rfl, p, hp, (hstale p hp).mpr hsame⟩

/-- A deletion that is taken in leaves nothing. -/
theorem isGone_of_delivered {r r' : Repository} {d : FeatureState}
    (hd : Delivered r (deleted d) false r') : IsGone r' d.key d.id := by
  refine isGone_iff.mpr ⟨fun s hs => ?_, ?_⟩
  · have hstate := hd.state_eq (r.slot d.key)
    rw [if_pos (show r.slot d.key = r.slot (deleted d).key from rfl)] at hstate
    have hlookup : r'.lookup? d.key = some (r.slot d.key) := hd.lookup?_key
    rw [stateOf?_of_lookup? hlookup, hstate, Option.some.injEq] at hs
    rw [← hs]
    exact ⟨rfl, rfl⟩
  · exact (hd.featureById?_eq d.id).trans (if_pos rfl)

/-- A deletion that is not older than what it meets takes the feature away, unless a state of the
same version without a value is there. Such a state makes the deletion do nothing, which is
enough only if it does not exist and the index of identities knows nothing of the feature. -/
theorem isGone_deleteFeature_iff {r : Repository} {d : FeatureState} (hr : Reachable r)
    (ho : r.isClosed = false)
    (hv : ∀ p, r.stateOf? d.key = some p → p.effectiveVersion ≤ d.effectiveVersion) :
    IsGone (r.deleteFeature d) d.key d.id ↔
      ∀ p, r.stateOf? d.key = some p → p.effectiveVersion = d.effectiveVersion →
        p.value = none → p.doesExist = false ∧ r.featureById? d.id = none := by
  have hrefuses := refuses_deletion_iff hv
  by_cases href : r.Refuses { d with value := none } false
  · have hna : ¬ r.Accepts { d with value := none } false := fun ha => ha.2 href
    have hquiet : Quiet r (r.deleteFeature d) := by
      rw [deleteFeature_of_not_accepts hna]
      exact quiet_updateFeature hna
    obtain ⟨p, hp, hversion, hvalue⟩ := hrefuses.mp href
    rw [isGone_iff, hquiet.stateOf?_eq, hquiet.featureById?_eq]
    constructor
    · rintro ⟨hgone, hid⟩ q hq - -
      exact ⟨(hgone q hq).1, hid⟩
    · intro h
      obtain ⟨hexists, hid⟩ := h p hp hversion hvalue
      refine ⟨fun q hq => ?_, hid⟩
      rw [hp, Option.some.injEq] at hq
      rw [← hq]
      exact ⟨hexists, hvalue⟩
  · have hgone : IsGone (r.deleteFeature d) d.key d.id :=
      isGone_of_delivered (delivered_deleteFeature hr.coherent ⟨ho, href⟩)
    refine iff_of_true hgone fun p hp hversion hvalue => ?_
    exact absurd (hrefuses.mpr ⟨p, hp, hversion, hvalue⟩) href

/-- A flag can be deleted by a state of the version it has, its value being news. -/
theorem isGone_deleteFeature_same_version :
    let r := after [.updateAll [sampleFlag 1 "a" 1, sampleFlag 2 "b" 1] false]
    let d := sampleFlag 1 "a" 1
    r.isClosed = false ∧
      (∀ p, r.stateOf? d.key = some p → p.effectiveVersion ≤ d.effectiveVersion) ∧
      IsGone (r.deleteFeature d) d.key d.id := by
  intro r d
  have hr : Reachable r := ⟨_, rfl⟩
  have ho : r.isClosed = false := by decide
  have hstate : r.stateOf? d.key = some d := rfl
  have hv : ∀ p, r.stateOf? d.key = some p → p.effectiveVersion ≤ d.effectiveVersion := by
    intro p hp
    rw [hstate, Option.some.injEq] at hp
    exact hp ▸ Int.le_refl _
  refine ⟨ho, hv, (isGone_deleteFeature_iff hr ho hv).mpr fun p hp _ hvalue => ?_⟩
  rw [hstate, Option.some.injEq] at hp
  rw [← hp] at hvalue
  exact nomatch hvalue

/-- A flag without a value. -/
def sampleUnset (n : Fin 16) (key : String) (version : Int) : FeatureState :=
  { sampleFlag n key version with value := none }

/-- A feature without a value cannot be deleted by a state of the version it has: it goes on to
exist. -/
theorem deletion_without_value_refused :
    ¬ ∀ (r : Repository) (d : FeatureState), Reachable r → r.isClosed = false →
      (∀ p, r.stateOf? d.key = some p → p.effectiveVersion ≤ d.effectiveVersion) →
        IsGone (r.deleteFeature d) d.key d.id := by
  intro h
  have hv : ∀ p, (after [.update (sampleUnset 1 "a" 1) false]).stateOf? "a" = some p →
      p.effectiveVersion ≤ (sampleUnset 1 "a" 1).effectiveVersion := by
    intro p hp
    have hstate : (after [.update (sampleUnset 1 "a" 1) false]).stateOf? "a" =
        some (sampleUnset 1 "a" 1) := rfl
    rw [hstate, Option.some.injEq] at hp
    exact hp ▸ Int.le_refl _
  have hgone := h _ (sampleUnset 1 "a" 1) ⟨_, rfl⟩ (by decide) hv
  exact absurd hgone.not_exists (by decide)

end FeatureFlags.Repository
