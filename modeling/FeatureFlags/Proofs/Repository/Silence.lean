import FeatureFlags.Proofs.Repository.Announcements

/-!
# Who is told of nothing

A delivery that is refused tells nobody anything (`callsSince_of_not_accepts`). One that is taken in
can leave a key as it was, to the eyes of its readers, and tell of it nevertheless. There are three
ways. A first state under a key is announced even if nothing can be read off it. A deletion is
compared with what was there before it takes the version away, so that the deletion of a feature
that is gone already is announced again. And an entry that the index gives for the identity of a
renamed feature is announced to have lost its state, even if it had none.

The main statement is that a key that looks as it did is announced in these cases only, and not even
then if there is nobody to be told (`isPassedOver_iff`).
-/

set_option autoImplicit false

namespace FeatureFlags.Repository

open Journal (round)

/-- Whether the existence, the value and the type of what is under a key are the same in two
repositories. -/
def LooksAlike (r r' : Repository) (key : String) : Prop :=
  (r.stateOf? key).any FeatureState.doesExist = (r'.stateOf? key).any FeatureState.doesExist ∧
    Json.sameOptional ((r.stateOf? key).bind FeatureState.value)
      ((r'.stateOf? key).bind FeatureState.value) = true ∧
    (r.stateOf? key).bind FeatureState.valueType = (r'.stateOf? key).bind FeatureState.valueType

/-- Whether no call was made to those who follow the entry of a key, and none about this key to
those who follow all features. -/
def IsPassedOver (r r' : Repository) (key : String) : Prop :=
  ∀ c ∈ callsSince r r', (∀ e, r'.lookup? key = some e → c.audience ≠ .entry e) ∧
    (c.audience = .updates → c.notice ≠ .feature key)

/-- Whether nobody follows the entry of a key. -/
def IsUnfollowed (r : Repository) (key : String) : Prop :=
  (r.entry (r.slot key)).listeners.registered = []

/-- Whether nobody is told of the changes of all features. -/
def IsUnheard (r : Repository) : Prop :=
  r.hasInitialState = true → r.updateListeners.registered = []

/-- Whether an operation is a deletion. -/
def Operation.isDeletion : Operation → Bool
  | .delete _ => true
  | _ => false

variable {r r' : Repository} {s : FeatureState} {force : Bool}

/-! ### What is called -/

/-- A state that is not taken in is not announced. -/
theorem callsSince_of_not_accepts (h : ¬ r.Accepts s force) :
    callsSince r (r.updateFeature s force).1 = [] := by
  have hjournal : (r.updateFeature s force).1.journal = r.journal := by
    cases hc : r.isClosed with
    | true => rw [updateFeature_of_closed s force hc]
    | false =>
      have href : r.Refuses s force := Classical.not_not.mp fun hno => h ⟨hc, hno⟩
      rw [updateFeature_of_refuses hc href]
      exact journal_obtain r s.key
  unfold callsSince
  rw [hjournal, List.drop_length]

/-- Where nothing was told every key was passed over. -/
theorem isPassedOver_of_callsSince (h : callsSince r r' = []) (key : String) :
    IsPassedOver r r' key := by
  intro c hc
  rw [h] at hc
  exact nomatch hc

namespace Reported

/-- Under its key, a delivery calls nobody if there is no news or nobody to be told. -/
theorem isPassedOver_key_iff (hr : Reported r s r') (h : Coherent r) :
    IsPassedOver r r' s.key ↔ (r.isNews s = true → IsUnfollowed r s.key ∧ IsUnheard r) := by
  have hlookup : r'.lookup? s.key = some (r.slot s.key) := by rw [hr.lookup?_eq, if_pos rfl]
  constructor
  · intro hpassed hnews
    have hcalls : ∀ c ∈ r.changeRounds (r.slot s.key) s.key, c ∈ callsSince r r' :=
      fun c hc => hr.mem_callsSince_iff.mpr (Or.inr ⟨hnews, hc⟩)
    constructor
    · refine (Journal.round_subset_iff fun c hc haudience => ?_).mp fun c hc =>
        hcalls c (mem_changeRounds_iff.mpr (Or.inl hc))
      exact absurd haudience ((hpassed c hc).1 _ hlookup)
    · intro hi
      exact (Journal.round_subset_iff fun c hc => (hpassed c hc).2).mp fun c hc =>
        hcalls c (mem_changeRounds_iff.mpr (Or.inr ⟨hi, hc⟩))
  · intro hnobody c hc
    rcases hr.mem_callsSince_iff.mp hc with hfarewell | ⟨hnews, hchange⟩
    · obtain ⟨e, hid, hkey, hround⟩ := mem_farewell_iff.mp hfarewell
      -- the entry that loses its state is not the one that gets it
      have hne : e ≠ r.slot s.key := by
        rintro rfl
        exact hkey (h.eq_of_lookup?_slot (h.in_use hid))
      rw [Journal.audience_of_mem_round hround, hlookup]
      simp [hne]
    · obtain ⟨hunfollowed, hunheard⟩ := hnobody hnews
      rcases mem_changeRounds_iff.mp hchange with hround | ⟨hi, hround⟩
      · exact absurd hround (Journal.not_mem_round hunfollowed)
      · exact absurd hround (Journal.not_mem_round (hunheard hi))

/-- Of another key, a delivery tells those who follow an entry that loses its state. -/
theorem isPassedOver_other_iff (hr : Reported r s r') (h : Coherent r) {k : String}
    (hk : k ≠ s.key) :
    IsPassedOver r r' k ↔ (r.keyById? s.id = some k → IsUnfollowed r k) := by
  have hlookup : r'.lookup? k = r.lookup? k := by rw [hr.lookup?_eq, if_neg hk]
  constructor
  · intro hpassed hlost
    obtain ⟨e, hid, hentry⟩ := h.keyById?_eq_some_iff.mp hlost
    have hkey : (r.entry e).key = k := h.key_eq hentry
    have hcalls : round (.entry e) (r.entry e).listeners (.feature (r.entry e).key) ⊆
        callsSince r r' := by
      intro c hc
      exact hr.mem_callsSince_iff.mpr (Or.inl (mem_farewell_iff.mpr ⟨e, hid, hkey ▸ hk, hc⟩))
    unfold IsUnfollowed
    rw [slot_of_lookup? hentry]
    refine (Journal.round_subset_iff fun c hc haudience => ?_).mp hcalls
    exact absurd haudience ((hpassed c hc).1 e (hlookup.trans hentry))
  · intro hnobody c hc
    rw [hlookup]
    refine ⟨fun e hentry haudience => ?_, fun haudience hnotice => ?_⟩
    -- the entry of another key is called only if it is the one that loses its state
    · rcases hr.mem_callsSince_iff.mp hc with hfarewell | ⟨-, hchange⟩
      · obtain ⟨e', hid, -, hround⟩ := mem_farewell_iff.mp hfarewell
        rw [Journal.audience_of_mem_round hround, Audience.entry.injEq] at haudience
        subst haudience
        have hunfollowed := hnobody (h.keyById?_eq_some_iff.mpr ⟨_, hid, hentry⟩)
        unfold IsUnfollowed at hunfollowed
        rw [slot_of_lookup? hentry] at hunfollowed
        exact Journal.not_mem_round hunfollowed hround
      · rcases mem_changeRounds_iff.mp hchange with hround | ⟨-, hround⟩
        · rw [Journal.audience_of_mem_round hround, Audience.entry.injEq] at haudience
          exact hk (h.eq_of_lookup?_slot (haudience ▸ hentry))
        · rw [Journal.audience_of_mem_round hround] at haudience
          exact nomatch haudience
    · rw [hr.notice_of_updates hc haudience] at hnotice
      exact hk (Notice.feature.inj hnotice).symm

end Reported

/-! ### News that readers cannot tell -/

/-- An update that leaves its key as it was is news only if it is the first state there. -/
theorem isNews_iff_of_looksAlike (hs : r'.stateOf? s.key = some s) (ha : LooksAlike r r' s.key) :
    r.isNews s = true ↔ r.stateOf? s.key = none := by
  unfold isNews
  cases hp : r.stateOf? s.key with
  | none => simp
  | some p =>
    obtain ⟨hexists, hvalue, htype⟩ := ha
    rw [hp, hs] at hexists hvalue htype
    simp only [Option.any_some, Option.bind_some] at hexists hvalue htype
    simp [differs, hexists, hvalue, htype]

/-- A feature that does not exist has the version of one without a version. -/
theorem effectiveVersion_of_not_exists {s : FeatureState} (h : s.doesExist = false) :
    s.effectiveVersion = -1 :=
  bne_eq_false_iff_eq.mp h

/-- A deletion that is taken in and leaves its key as it was is news: what was there did not exist
any more, and the state that comes does. -/
theorem isNews_deletion_of_looksAlike {d : FeatureState}
    (hs : r'.stateOf? d.key = some (deleted d)) (ha : LooksAlike r r' d.key)
    (hacc : r.Accepts { d with value := none } false) :
    r.isNews { d with value := none } = true := by
  have hnews : r.isNews { d with value := none } =
      (r.stateOf? d.key).all fun p => differs p { d with value := none } := rfl
  obtain ⟨hexists, hvalue, -⟩ := ha
  rw [hnews]
  cases hp : r.stateOf? d.key with
  | none => rfl
  | some p =>
    rw [hp, hs] at hexists hvalue
    have hgone : p.doesExist = false := hexists
    have hunset : p.value = none := (sameOptional_none_iff p.value).mp hvalue
    have hcomes : ({ d with value := none } : FeatureState).doesExist = true := by
      -- two states without a version and a value are of one version, and the second one is refused
      refine Classical.not_not.mp fun hd => ?_
      have hversion : p.effectiveVersion = d.effectiveVersion := by
        rw [effectiveVersion_of_not_exists hgone]
        exact (effectiveVersion_of_not_exists (Bool.not_eq_true _ ▸ hd)).symm
      refine hacc.2 ((refuses_deletion_iff fun q hq => ?_).mpr ⟨p, hp, hversion, hunset⟩)
      obtain rfl : p = q := Option.some.inj (hp.symm.trans hq)
      exact Int.le_of_eq hversion
    simp [differs, hgone, hcomes]

/-! ### Who is told although nothing changed -/

/-- A single delivery either takes nothing in and tells nobody, or tells what is reported of it. If
its key looks as it did, there is news of it only if it is a deletion or puts a first state
there. -/
theorem reported_of_delivered {op : Operation} (h : Coherent r) (hs : op.delivered? = some s) :
    (r.taken? op = none ∧ callsSince r (r.step op) = []) ∨
      ((r.taken? op).isSome = true ∧ Reported r s (r.step op) ∧
        (LooksAlike r (r.step op) s.key →
          (r.isNews s = true ↔ op.isDeletion = true ∨ r.stateOf? s.key = none))) := by
  cases op with
  | update s' force =>
    obtain rfl : s' = s := Option.some.inj hs
    by_cases ha : r.Accepts s' force
    · have hstate := (delivered_updateFeature h ha).stateOf?_key h
      refine Or.inr ⟨?_, reported_updateFeature h ha, fun hlooks => ?_⟩
      · simp [taken?, (updateFeature_of_accepts ha).1]
      · rw [isNews_iff_of_looksAlike hstate hlooks]
        simp [Operation.isDeletion]
    · refine Or.inl ⟨?_, callsSince_of_not_accepts ha⟩
      simp [taken?, mt (updateFeature_snd_iff r s' force).mp ha]
  | delete d =>
    obtain rfl : { d with value := none } = s := Option.some.inj hs
    by_cases ha : r.Accepts { d with value := none } false
    · have hstate := (delivered_deleteFeature h ha).stateOf?_key h
      refine Or.inr ⟨?_, reported_deleteFeature h ha, fun hlooks => ?_⟩
      · simp [taken?, (updateFeature_of_accepts ha).1]
      · exact iff_of_true (isNews_deletion_of_looksAlike hstate hlooks ha) (Or.inl rfl)
    · refine Or.inl ⟨?_, ?_⟩
      · simp [taken?, mt (updateFeature_snd_iff r _ false).mp ha]
      · show callsSince r (r.deleteFeature d) = []
        rw [deleteFeature_of_not_accepts ha]
        exact callsSince_of_not_accepts ha
  | _ => cases hs

/-- A delivery of a state, or of a deletion, makes no call about a key that looks as it did, unless
the delivery is taken in and one of three things holds: it is a deletion under this key, it puts the
first state under this key, or the index gives this key for the identity of a feature that is
delivered under another one. In these cases everybody who is registered is told. -/
theorem isPassedOver_iff (hr : Reachable r) {op : Operation} (hs : op.delivered? = some s)
    {k : String} (ha : LooksAlike r (r.step op) k) :
    IsPassedOver r (r.step op) k ↔ ((r.taken? op).isSome = true →
      (k = s.key → op.isDeletion = true ∨ r.stateOf? k = none → IsUnfollowed r k ∧ IsUnheard r) ∧
        (k ≠ s.key → r.keyById? s.id = some k → IsUnfollowed r k)) := by
  have h := hr.coherent
  rcases reported_of_delivered h hs with ⟨hnone, hcalls⟩ | ⟨htaken, hreported, hnews⟩
  · rw [hnone]
    exact iff_of_true (isPassedOver_of_callsSince hcalls k) fun hno => nomatch hno
  · simp only [htaken, forall_const]
    by_cases hk : k = s.key
    · subst hk
      rw [hreported.isPassedOver_key_iff h, hnews ha]
      simp
    · rw [hreported.isPassedOver_other_iff h hk]
      simp [hk]

/-- A newer version of the same flag is no news, whoever follows it. -/
theorem isPassedOver_newer_version :
    let r := after [.updateAll [sampleFlag 1 "a" 1] false, .listen .updates ⟨"u", false⟩,
      .listen (.entry 0) ⟨"e", false⟩]
    let newer : Operation := .update (sampleFlag 1 "a" 2) false
    LooksAlike r (r.step newer) "a" ∧ (r.taken? newer).isSome = true ∧
      IsPassedOver r (r.step newer) "a" := by
  intro r newer
  have ha : LooksAlike r (r.step newer) "a" := ⟨rfl, rfl, rfl⟩
  have hr : Reachable r := ⟨_, rfl⟩
  have hs : newer.delivered? = some (sampleFlag 1 "a" 2) := rfl
  have hheld : (r.stateOf? "a").isSome = true := by decide
  have htaken : (r.taken? newer).isSome = true := by decide
  refine ⟨ha, htaken, (isPassedOver_iff hr hs ha).mpr fun _ => ⟨fun _ hor => ?_, fun hk => ?_⟩⟩
  · rcases hor with hdeletion | hnone
    · exact absurd hdeletion (by decide)
    · rw [hnone] at hheld
      exact nomatch hheld
  · exact absurd rfl hk

/-- Three calls about nothing: a flag that was deleted is deleted once more, an entry that was
emptied already is emptied by a rename, and an entry without a state is given one of which nothing
can be read. -/
theorem unchanged_keys_announced :
    let follow : Operation := .listen (.entry 0) ⟨"e", false⟩
    let gone := after [.update (sampleFlag 1 "a" 1) false, follow, .delete (sampleFlag 1 "a" 2)]
    let again := gone.step (.delete (sampleFlag 1 "a" 2))
    let emptied := after [.update (sampleFlag 1 "a" 1) false, follow,
      .update (sampleFlag 2 "a" 2) false, .update (sampleFlag 2 "b" 3) false]
    let renamed := emptied.step (.update (sampleFlag 1 "c" 4) false)
    let blank := after [.getFeature "a", follow]
    let first := blank.step (.update
      { sampleUnset 1 "a" 1 with version := none, valueType := none } false)
    (LooksAlike gone again "a" ∧ ¬ IsPassedOver gone again "a") ∧
      (LooksAlike emptied renamed "a" ∧ ¬ IsPassedOver emptied renamed "a") ∧
      LooksAlike blank first "a" ∧ ¬ IsPassedOver blank first "a" := by
  intro follow gone again emptied renamed blank first
  have hcall : ∀ r r' : Repository, r'.lookup? "a" = some 0 →
      (⟨.entry 0, 0, ⟨"e", false⟩, .feature "a"⟩ : Call) ∈ callsSince r r' →
        ¬ IsPassedOver r r' "a" :=
    fun _ _ hlookup hc hpassed => (hpassed _ hc).1 0 hlookup rfl
  have hagain : LooksAlike gone again "a" := ⟨by decide, by decide, by decide⟩
  have hrenamed : LooksAlike emptied renamed "a" := ⟨by decide, by decide, by decide⟩
  have hfirst : LooksAlike blank first "a" := ⟨by decide, by decide, by decide⟩
  exact ⟨⟨hagain, hcall gone again (by decide) (by decide)⟩,
    ⟨hrenamed, hcall emptied renamed (by decide) (by decide)⟩,
    hfirst, hcall blank first (by decide) (by decide)⟩

end FeatureFlags.Repository
