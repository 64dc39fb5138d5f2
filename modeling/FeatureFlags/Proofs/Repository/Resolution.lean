import FeatureFlags.Proofs.Repository.Bystanders
import FeatureFlags.Proofs.Repository.Steps
import FeatureFlags.Proofs.Rollout.Selection
import FeatureFlags.Repository.Resolve

/-!
# What can be had of an entry

An entry is resolved by what it holds. Whether the feature exists is not asked, so that a feature
that does not exist can be had like any other: by the value that was delivered with it, or by the
strategies, which a deletion does not take away.

The main statement says which entries resolve to nothing, whoever asks: those that hold nothing,
and those that hold a state without a type, or without a value and without a strategy that gives
one. It does so for deleted features in particular.
-/

set_option autoImplicit false

namespace FeatureFlags.Repository

/-- Whether no context gets a value from the strategies of a state. -/
def HasSilentStrategies (s : FeatureState) : Prop :=
  ∀ now context i t,
    Rollout.Selects (.shared now) s.id.text context s.strategies i t → t.value = none

/-- Whether a state has no type, or no value for anybody. -/
def IsSilent (s : FeatureState) : Prop :=
  s.valueType = none ∨ s.value = none ∧ HasSilentStrategies s

/-- Whether an entry resolves to nothing, whatever is expected and whoever asks. -/
def NeverResolves (r : Repository) (e : Entry) : Prop :=
  ∀ vars now expected context, r.resolve vars now e expected context = none

/-! ### Resolving without overrides -/

/-- Without interceptors an entry resolves to what was delivered. -/
theorem resolve_of_no_interceptors {r : Repository} (h : r.interceptors = []) (vars : Variables)
    (now : Rollout.Moment) (e : Entry) (expected : Option ValueType)
    (context : Option Attributes) :
    r.resolve vars now e expected context = deliveredValue now e expected context := by
  unfold resolve Interceptor.find?
  rw [h]
  rfl

/-- A state without a value gives what the selected strategy gives. -/
theorem stateValue_of_no_value {s : FeatureState} (h : s.value = none) (now : Rollout.Moment)
    (a : Attributes) :
    stateValue now s (some a) = (Rollout.apply (.shared now) s.strategies s.id.text a).value := by
  unfold stateValue
  simp only [h]
  unfold Rollout.Outcome.isMatched Rollout.Outcome.value
  cases (Rollout.apply (.shared now) s.strategies s.id.text a).choice <;> simp

/-- The outcome has no value if no strategy with a value is selected, and the other way round. -/
theorem hasSilentStrategies_iff (s : FeatureState) :
    HasSilentStrategies s ↔
      ∀ now a, (Rollout.apply (.shared now) s.strategies s.id.text a).value = none := by
  unfold Rollout.Outcome.value
  constructor
  · intro h now a
    cases hchoice : (Rollout.apply (.shared now) s.strategies s.id.text a).choice with
    | none => rfl
    | some c => exact h now a c.index c.strategy ((Rollout.choice_apply_iff ..).mp hchoice)
  · intro h now a i t ht
    have hnone := h now a
    rw [(Rollout.choice_apply_iff ..).mpr ht] at hnone
    exact hnone

/-- A state gives nobody a value if it has none and its strategies give none. -/
theorem stateValue_eq_none_iff (s : FeatureState) :
    (∀ now context, stateValue now s context = none) ↔
      s.value = none ∧ HasSilentStrategies s := by
  rw [hasSilentStrategies_iff]
  constructor
  · intro h
    have hvalue : s.value = none := h ⟨"", ""⟩ none
    exact ⟨hvalue, fun now a => stateValue_of_no_value hvalue now a ▸ h now (some a)⟩
  · rintro ⟨hvalue, hstrategies⟩ now context
    cases context with
    | none => exact hvalue
    | some a => exact (stateValue_of_no_value hvalue now a).trans (hstrategies now a)

/-- Without overrides, an entry resolves to nothing for everybody exactly if what it holds is
silent. -/
theorem neverResolves_iff {r : Repository} (h : r.interceptors = []) (e : Entry) :
    NeverResolves r e ↔ ∀ s, e.state = some s → IsSilent s := by
  unfold NeverResolves
  simp only [resolve_of_no_interceptors h]
  cases hs : e.state with
  | none =>
    refine iff_of_true (fun _ now expected context => ?_) fun s hs' => nomatch hs'
    simp [deliveredValue, hs]
  | some s =>
    have hone : (∀ t, some s = some t → IsSilent t) ↔ IsSilent s := by simp
    rw [hone]
    unfold IsSilent
    rw [← stateValue_eq_none_iff]
    cases ht : s.valueType with
    | none => simp [deliveredValue, hs, ht]
    | some t =>
      constructor
      · intro hall
        refine Or.inr fun now context => ?_
        have hany := hall .empty now none context
        simpa [deliveredValue, hs, ht] using hany
      · rintro (hno | hall) vars now expected context
        · exact nomatch hno
        · simp [deliveredValue, hs, ht, hall]

/-! ### Deliveries leave the overrides alone -/

/-- A delivery leaves the interceptors alone. -/
theorem isBystander_interceptors : IsBystander interceptors := .of_frame fun _ _ _ _ _ => rfl

/-! ### Features that do not exist -/

/-- Without overrides, an entry resolves to nothing for everybody exactly if what it holds is
silent, whether the feature exists or not. What a deletion leaves is silent exactly if the deleted
state has no type or silent strategies. -/
theorem neverResolves_missing_iff {r : Repository} (hr : Reachable r) (hi : r.interceptors = []) :
    (∀ e, NeverResolves r (r.entry e) ↔ ∀ s, (r.entry e).state = some s → IsSilent s) ∧
      ∀ d e, r.Accepts { d with value := none } false →
        (r.deleteFeature d).lookup? d.key = some e →
        (NeverResolves (r.deleteFeature d) ((r.deleteFeature d).entry e) ↔
          d.valueType = none ∨ HasSilentStrategies d) := by
  refine ⟨fun e => neverResolves_iff hi (r.entry e), fun d e ha he => ?_⟩
  have hd : Delivered r (deleted d) false (r.deleteFeature d) :=
    delivered_deleteFeature hr.coherent ha
  have hslot : e = r.slot d.key := by
    rw [show d.key = (deleted d).key from rfl, hd.lookup?_key, Option.some.injEq] at he
    exact he.symm
  have hstate : ((r.deleteFeature d).entry e).state = some (deleted d) :=
    (hd.state_eq e).trans (if_pos hslot)
  rw [neverResolves_iff ((isBystander_interceptors.deleteFeature r d).trans hi), hstate]
  constructor
  · intro h
    exact (h (deleted d) rfl).imp_right And.right
  · intro h s hs
    rw [← Option.some.inj hs]
    exact h.imp_right fun hsilent => ⟨rfl, hsilent⟩

/-- A flag that is off but for contexts from one country. -/
def sampleTargeted (n : Fin 16) : FeatureState where
  id := sampleId n
  key := "a"
  version := some 1
  valueType := some .boolean
  value := some (.bool false)
  locked := false
  strategies := [⟨none, none, [], some (.bool true),
    [⟨.equals, Attributes.country, [.string "new_zealand"], .string⟩]⟩]
  environmentId := none

/-- A flag without a strategy resolves to nothing when it is deleted. -/
theorem neverResolves_deleted_flag :
    let r := after [.update (sampleFlag 1 "a" 1) false]
    let d := sampleFlag 1 "a" 1
    r.interceptors = [] ∧ r.Accepts { d with value := none } false ∧
      (r.deleteFeature d).lookup? d.key = some 0 ∧
      NeverResolves (r.deleteFeature d) ((r.deleteFeature d).entry 0) := by
  intro r d
  have ha : r.Accepts { d with value := none } false :=
    (updateFeature_snd_iff ..).mp (by decide)
  have hsilent : HasSilentStrategies d := fun now context i t ht => nomatch ht.1
  have hlookup : (r.deleteFeature d).lookup? d.key = some 0 := by decide
  exact ⟨rfl, ha, hlookup,
    ((neverResolves_missing_iff ⟨_, rfl⟩ rfl).2 d 0 ha hlookup).mpr (Or.inr hsilent)⟩

/-- A deleted flag is still on for the contexts that a strategy had turned it on for. -/
theorem deleted_feature_resolves :
    ¬ ∀ r : Repository, Reachable r → r.interceptors = [] → ∀ e, (r.entry e).doesExist = false →
      NeverResolves r (r.entry e) := by
  intro h
  have hnone := h (after [.update (sampleTargeted 1) false, .delete (sampleTargeted 1)])
    ⟨_, rfl⟩ rfl 0 (by decide) .empty ⟨"", ""⟩ (some .boolean)
    (some (Attributes.empty.set Attributes.country "new_zealand"))
  exact absurd (congrArg Option.isSome hnone) (by decide)

end FeatureFlags.Repository
