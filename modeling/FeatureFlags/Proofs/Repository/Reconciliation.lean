import FeatureFlags.Proofs.Repository.Bystanders
import FeatureFlags.Proofs.Repository.Steps

/-!
# Refusing and taking in

A delivered state is compared with the state under its key, and with nothing else. If that one is
newer, or of the same version with the same value, the delivery is refused and the repository is the
very same afterwards (`updateFeature_of_kept`). Otherwise the state is taken in, and `TakenIn` says
what there is to see of it: the entry of the key holds the state, the identity leads there, and the
entry that it led to before has lost its state.

The main statement is that a delivery always does one or the other, and tells truly which.
-/

set_option autoImplicit false

namespace FeatureFlags.Repository

/-- Everything in a repository but the entries, the indices and the journal. -/
def surroundings (r : Repository) : Readiness × Bool × Bool × Listeners Listener ×
    Listeners Listener × Listeners Listener × List Interceptor :=
  (r.readiness, r.hasInitialState, r.isClosed, r.readinessListeners, r.updateListeners,
    r.batchListeners, r.interceptors)

/-- A delivery leaves the surroundings alone. -/
theorem isBystander_surroundings : IsBystander surroundings := .of_frame fun _ _ _ _ _ => rfl

/-- `r'` is `r` with a state taken in. -/
structure TakenIn (r : Repository) (s : FeatureState) (r' : Repository) : Prop where
  /-- The key leads to its entry, which is a new one if it had none. -/
  lookup?_key : r'.lookup? s.key = some (r.slot s.key)
  /-- This entry holds the state, and whoever followed it goes on to. -/
  entry_key : r'.entry (r.slot s.key) = ⟨s.key, some s, (r.entry (r.slot s.key)).listeners⟩
  /-- The identity leads to this entry. -/
  featureById?_id : r'.featureById? s.id = some (r.slot s.key)
  /-- Another entry that the identity led to loses its state, and nothing else. -/
  entry_former : ∀ e, r.featureById? s.id = some e → e ≠ r.slot s.key →
    r'.entry e = { r.entry e with state := none }
  /-- All other entries are what they were. -/
  entry_other : ∀ e, r.featureById? s.id ≠ some e → e ≠ r.slot s.key → r'.entry e = r.entry e
  /-- Other keys lead to where they led. -/
  lookup?_other : ∀ k, k ≠ s.key → r'.lookup? k = r.lookup? k
  /-- Other identities lead to where they led. -/
  featureById?_other : ∀ id, id ≠ s.id → r'.featureById? id = r.featureById? id
  /-- Neither the readiness nor anything around the entries has changed. -/
  surroundings_eq : r'.surroundings = r.surroundings

variable {r : Repository}

/-- A state is stale if it is older, or of the same version and value. -/
theorem isStale_iff (p s : FeatureState) :
    isStale p s = true ↔ s.effectiveVersion < p.effectiveVersion ∨
      p.effectiveVersion = s.effectiveVersion ∧ Json.sameOptional p.value s.value = true := by
  unfold isStale
  rw [Bool.or_eq_true, Bool.and_eq_true, decide_eq_true_iff, beq_iff_eq]

/-- A delivery that meets a state that is kept leaves the repository as it is. -/
theorem updateFeature_of_kept {s : FeatureState} {force : Bool} (ho : r.isClosed = false)
    (h : r.Refuses s force) : r.updateFeature s force = (r, false) := by
  obtain ⟨-, p, hp, -⟩ := id h
  obtain ⟨e, he, -⟩ := exists_lookup?_of_stateOf? hp
  rw [updateFeature_of_refuses ho h, obtain_of_lookup? he]

/-- An accepted update takes its state in, with the footprint that this has. -/
theorem takenIn_updateFeature {s : FeatureState} {force : Bool} (h : Coherent r)
    (ha : r.Accepts s force) : TakenIn r s (r.updateFeature s force).1 := by
  have hd := delivered_updateFeature h ha
  have hkey : ∀ e, e ≠ r.slot s.key →
      ((r.updateFeature s force).1.entry e).key = (r.entry e).key := by
    intro e he
    rw [hd.key_eq, if_neg he]
  constructor
  · exact hd.lookup?_key
  · refine entry_eq_of ?_ ?_ (hd.listeners_eq _)
    · rw [hd.key_eq, if_pos rfl]
    · rw [hd.state_eq, if_pos rfl]
  · rw [hd.featureById?_eq, if_pos rfl, if_pos rfl]
  · intro e hid he
    refine entry_eq_of (hkey e he) ?_ (hd.listeners_eq e)
    rw [hd.state_eq, if_neg he, if_pos hid]
  · intro e hid he
    refine entry_eq_of (hkey e he) ?_ (hd.listeners_eq e)
    rw [hd.state_eq, if_neg he, if_neg hid]
  · intro k hk
    rw [hd.lookup?_eq, if_neg hk]
  · intro id hid
    rw [hd.featureById?_eq, if_neg hid]
  · exact isBystander_surroundings.updateFeature r s force

/-- A delivery to an open repository is refused exactly if it is not forced and meets a state that
is newer, or of the same version with the same value. When it is refused, nothing at all changes;
when it is not, the state is taken in. -/
theorem updateFeature_reconciles (hr : Reachable r) (ho : r.isClosed = false) (s : FeatureState)
    (force : Bool) :
    ((r.updateFeature s force).2 = false ↔ force = false ∧ ∃ p, r.stateOf? s.key = some p ∧
      (s.effectiveVersion < p.effectiveVersion ∨
        p.effectiveVersion = s.effectiveVersion ∧ Json.sameOptional p.value s.value = true)) ∧
    ((r.updateFeature s force).2 = false → (r.updateFeature s force).1 = r) ∧
    ((r.updateFeature s force).2 = true → TakenIn r s (r.updateFeature s force).1) := by
  have hrefused : (r.updateFeature s force).2 = false ↔ r.Refuses s force := by
    rw [← Bool.not_eq_true, updateFeature_snd_iff]
    unfold Accepts
    rw [and_iff_right ho, Classical.not_not]
  refine ⟨?_, fun h => ?_, fun h => ?_⟩
  · rw [hrefused]
    unfold Refuses
    simp only [isStale_iff]
  · rw [updateFeature_of_kept ho (hrefused.mp h)]
  · exact takenIn_updateFeature hr.coherent ((updateFeature_snd_iff r s force).mp h)

/-- A late state is refused by the feature that has its key, and a newer one takes its place. -/
theorem updateFeature_reconciles_renamed :
    let r := after [.updateAll [sampleFlag 1 "a" 2, sampleFlag 2 "b" 5] false]
    Reachable r ∧ r.isClosed = false ∧
      (r.updateFeature (sampleFlag 1 "b" 4) false).1 = r ∧
      TakenIn r (sampleFlag 1 "b" 6) (r.updateFeature (sampleFlag 1 "b" 6) false).1 := by
  intro r
  have hr : Reachable r := ⟨_, rfl⟩
  have ho : r.isClosed = false := by decide
  obtain ⟨-, hkept, -⟩ := updateFeature_reconciles hr ho (sampleFlag 1 "b" 4) false
  obtain ⟨-, -, htaken⟩ := updateFeature_reconciles hr ho (sampleFlag 1 "b" 6) false
  exact ⟨hr, ho, hkept (by decide), htaken (by decide)⟩

end FeatureFlags.Repository
