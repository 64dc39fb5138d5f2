import FeatureFlags.Proofs.Repository.Bystanders
import FeatureFlags.Proofs.Repository.Deletion
import FeatureFlags.Proofs.Repository.Journal

/-!
# Who is told of a change

A delivery that is taken in tells those who follow the entry that the feature is taken away from,
if the feature had another key, and then, if readers can tell the delivered state from the one
that was there, those who follow the entry of the key and those who follow all features
(`calls_updateFeature`). Two changes of what is under a key slip through: those who follow all
features are not told of a key that lost its feature to another one, and nobody is told of the
deletion of a feature without a value, because the states are compared before the deletion takes
the version away (`isAnnounced_iff`).
-/

set_option autoImplicit false

namespace FeatureFlags.Repository

open Journal (round)

/-! ### The calls of a delivery -/

/-- Those who follow all features, and whether they are told of changes. -/
def followers (r : Repository) : Listeners Listener × Bool := (r.updateListeners, r.hasInitialState)

/-- A delivery leaves those who follow all features in place. -/
theorem isBystander_followers : IsBystander followers := .of_frame fun _ _ _ _ _ => rfl

/-- Making an entry tells nobody. -/
@[simp] theorem journal_obtain (r : Repository) (key : String) :
    (r.obtain key).1.journal = r.journal := by
  unfold obtain
  cases r.lookup? key <;> rfl

variable {r : Repository} {s : FeatureState} {force : Bool}

/-- The calls to those who follow the entry that a feature is taken away from. -/
def farewell (r : Repository) (s : FeatureState) : List Call :=
  match r.featureById? s.id with
  | some e =>
    if (r.entry e).key = s.key then []
    else round (.entry e) (r.entry e).listeners (.feature (r.entry e).key)
  | none => []

/-- The calls to those who follow an entry or all features. -/
def changeRounds (r : Repository) (e : EntryId) (key : String) : List Call :=
  round (.entry e) (r.entry e).listeners (.feature key) ++
    if r.hasInitialState then round .updates r.updateListeners (.feature key) else []

/-- Who is told of a change depends on who follows the entry and all features only. -/
theorem changeRounds_congr {r' : Repository} {e : EntryId}
    (hlisteners : (r'.entry e).listeners = (r.entry e).listeners)
    (hfollowers : r'.followers = r.followers) (key : String) :
    r'.changeRounds e key = r.changeRounds e key := by
  obtain ⟨hupdates, hinitial⟩ := Prod.mk.inj hfollowers
  unfold changeRounds
  rw [hlisteners, hupdates, hinitial]

/-- Whether readers can tell a delivered state from the one that is there, if there is one. -/
def isNews (r : Repository) (s : FeatureState) : Bool :=
  (r.stateOf? s.key).all fun p => differs p s

/-- A feature that is taken from its former key is reported to those who follow this key. -/
theorem calls_forgetRenamed (ho : r.isClosed = false) :
    (r.forgetRenamed s).journal.calls = r.journal.calls ++ r.farewell s := by
  unfold forgetRenamed farewell
  cases r.featureById? s.id with
  | none => simp
  | some e =>
    simp only
    split
    · simp
    · have hlisteners : ((r.setState e none).entry e).listeners = (r.entry e).listeners := by
        unfold setState modifyEntry entry
        cases hentry : r.entries[e]? <;> simp [hentry]
      have hopen : (r.setState e none).isClosed = false := ho
      rw [calls_announce hopen]
      exact congrArg (fun l => r.journal.calls ++ round (.entry e) l _) hlisteners

/-- A change is reported to those who follow the entry, then to those who follow all features. -/
theorem calls_announceChange (ho : r.isClosed = false) (e : EntryId) (key : String) :
    (r.announceChange e key).journal.calls = r.journal.calls ++ r.changeRounds e key := by
  obtain ⟨hupdates, hinitial⟩ := Prod.mk.inj
    (isBystander_followers.announce_eq r (.entry e) (.feature key) (by simp))
  have hopen : (r.announce (.entry e) (.feature key)).isClosed = false := by
    rw [isClosed_of_contents (contents_announce r _ _), ho]
  unfold announceChange changeRounds
  simp only [hinitial]
  split
  · rw [calls_announce hopen, calls_announce ho, List.append_assoc]
    exact congrArg (fun l => r.journal.calls ++ (_ ++ round .updates l _)) hupdates
  · rw [calls_announce ho, List.append_nil]
    rfl

/-- Making an entry for a key changes nothing about who is told when a feature is taken away. -/
theorem farewell_obtain (h : Coherent r) (key : String) (s : FeatureState) :
    (r.obtain key).1.farewell s = r.farewell s := by
  unfold farewell
  rw [featureById?_obtain]
  cases hid : r.featureById? s.id with
  | none => rfl
  | some e => simp only [entry_obtain_of_lt r key (h.lt_length_of_indexed hid)]

/-- What a delivery that is taken in tells: of the entry that the feature is taken away from, and
of the entry of its key if there is news. -/
theorem calls_updateFeature (h : Coherent r) (ha : r.Accepts s force) :
    (r.updateFeature s force).1.journal.calls = r.journal.calls ++ r.farewell s ++
      if r.isNews s then r.changeRounds (r.slot s.key) s.key else [] := by
  have ht := mt (refuses_iff r s force).mp ha.2
  rw [Bool.not_eq_true] at ht
  have hopen : (r.obtain s.key).1.isClosed = false := by rw [isClosed_obtain, ha.1]
  -- until the state is stored, only those who followed the feature under its old key are told
  have hcalls : (r.accept s).journal.calls = r.journal.calls ++ r.farewell s := by
    show ((r.obtain s.key).1.forgetRenamed s).journal.calls = _
    rw [calls_forgetRenamed hopen, journal_obtain, farewell_obtain h]
  have hlisteners : ((r.accept s).entry (r.slot s.key)).listeners =
      (r.entry (r.slot s.key)).listeners := (delivered_accept h s).listeners_eq _
  have hfollowers : (r.accept s).followers = r.followers := by
    show ((r.obtain s.key).1.forgetRenamed s).followers = _
    rw [isBystander_followers.forgetRenamed, isBystander_followers.obtain_eq]
  have hupdate : (r.updateFeature s force).1 =
      if r.isNews s then (r.accept s).announceChange (r.slot s.key) s.key else r.accept s := by
    unfold updateFeature accept isNews
    simp only [ha.1, Bool.false_eq_true, if_false, obtain_snd, state_obtain, state_slot, ht]
  rw [hupdate]
  split
  · have hclosed : (r.accept s).isClosed = false := by
      rw [(delivered_accept h s).isClosed_eq, ha.1]
    rw [calls_announceChange hclosed, hcalls, changeRounds_congr hlisteners hfollowers]
  · rw [hcalls, List.append_nil]

/-- A deletion tells nobody anything after the delivery that it starts with. -/
theorem calls_deleteFeature (s : FeatureState) : (r.deleteFeature s).journal.calls =
    (r.updateFeature { s with value := none } false).1.journal.calls := by
  unfold deleteFeature
  split
  · next heq => rw [heq]
  · next r' heq =>
    rw [heq]
    exact congrArg Journal.calls (journal_obtain r' s.key)

/-! ### Changes and announcements -/

/-- The calls that were made between two repositories. -/
def callsSince (r r' : Repository) : List Call := r'.journal.calls.drop r.journal.calls.length

/-- Whether everybody who is registered in an audience was told of a key. -/
def IsTold (r r' : Repository) (a : Audience) (key : String) : Prop :=
  round a (r'.listeners a) (.feature key) ⊆ callsSince r r'

/-- Whether those who follow the entry of a key and those who follow all features were told of the
key. -/
def IsAnnounced (r r' : Repository) (key : String) : Prop :=
  (∀ e, r'.lookup? key = some e → IsTold r r' (.entry e) key) ∧ IsTold r r' .updates key

/-- Whether two values are told apart by the equality of values, which takes the two zeros for
the same. -/
def ValuesDiffer (v w : Option Json) : Prop := v ≠ w ∧ Json.sameOptional v w = false

/-- Whether the existence, the value or the type of what is under a key changed. -/
def Changes (r r' : Repository) (key : String) : Prop :=
  (r.stateOf? key).any FeatureState.doesExist ≠ (r'.stateOf? key).any FeatureState.doesExist ∨
    ValuesDiffer ((r.stateOf? key).bind FeatureState.value)
      ((r'.stateOf? key).bind FeatureState.value) ∨
    (r.stateOf? key).bind FeatureState.valueType ≠ (r'.stateOf? key).bind FeatureState.valueType

/-- Nothing changes under a key that holds what it held. -/
theorem not_changes_of_stateOf?_eq {r r' : Repository} {key : String}
    (h : r'.stateOf? key = r.stateOf? key) : ¬ Changes r r' key := by
  unfold Changes ValuesDiffer
  simp [h]

/-- A delivery that was taken in, and what it told. -/
structure Reported (r : Repository) (s : FeatureState) (r' : Repository) : Prop where
  lookup?_eq : ∀ k, r'.lookup? k = if k = s.key then some (r.slot s.key) else r.lookup? k
  listeners_eq : ∀ e, (r'.entry e).listeners = (r.entry e).listeners
  updateListeners_eq : r'.updateListeners = r.updateListeners
  callsSince_eq : callsSince r r' =
    r.farewell s ++ if r.isNews s then r.changeRounds (r.slot s.key) s.key else []

/-- An update that is taken in reports its news. -/
theorem reported_updateFeature (h : Coherent r) (ha : r.Accepts s force) :
    Reported r s (r.updateFeature s force).1 where
  lookup?_eq := (delivered_updateFeature h ha).lookup?_eq
  listeners_eq := (delivered_updateFeature h ha).listeners_eq
  updateListeners_eq := congrArg Prod.fst (isBystander_followers.updateFeature r s force)
  callsSince_eq := by
    unfold callsSince
    rw [calls_updateFeature h ha, List.append_assoc, List.drop_left]

/-- A deletion that is taken in reports its news. -/
theorem reported_deleteFeature (h : Coherent r) (ha : r.Accepts { s with value := none } false) :
    Reported r { s with value := none } (r.deleteFeature s) where
  lookup?_eq := (delivered_deleteFeature h ha).lookup?_eq
  listeners_eq := (delivered_deleteFeature h ha).listeners_eq
  updateListeners_eq := congrArg Prod.fst (isBystander_followers.deleteFeature r s)
  callsSince_eq := by
    unfold callsSince
    rw [calls_deleteFeature, calls_updateFeature h ha, List.append_assoc, List.drop_left]

/-- A call of the farewell is one to those who follow the entry of another key that the index gives
for the identity. -/
theorem mem_farewell_iff {c : Call} : c ∈ r.farewell s ↔ ∃ e, r.featureById? s.id = some e ∧
    (r.entry e).key ≠ s.key ∧
      c ∈ round (.entry e) (r.entry e).listeners (.feature (r.entry e).key) := by
  unfold farewell
  cases r.featureById? s.id with
  | none => simp
  | some e =>
    simp only [Option.some.injEq, exists_eq_left']
    split <;> simp [*]

/-- A call that tells of a change is to those who follow the entry, or after the first states to
those who follow all features. -/
theorem mem_changeRounds_iff {c : Call} {e : EntryId} {key : String} :
    c ∈ r.changeRounds e key ↔ c ∈ round (.entry e) (r.entry e).listeners (.feature key) ∨
      r.hasInitialState = true ∧ c ∈ round .updates r.updateListeners (.feature key) := by
  unfold changeRounds
  rw [List.mem_append]
  split <;> simp [*]

/-- Whoever hears that a feature was taken away hears of another key. -/
theorem notice_of_mem_farewell {c : Call} (hc : c ∈ r.farewell s) :
    c.notice ≠ .feature s.key ∧ c.audience ≠ .updates := by
  obtain ⟨e, -, hkey, hround⟩ := mem_farewell_iff.mp hc
  rw [Journal.notice_of_mem_round hround, Journal.audience_of_mem_round hround]
  exact ⟨fun heq => hkey (Notice.feature.inj heq), by simp⟩

/-- All calls that tell of a change name the key. -/
theorem notice_of_mem_changeRounds {c : Call} {e : EntryId} {key : String}
    (hc : c ∈ r.changeRounds e key) : c.notice = .feature key := by
  rcases mem_changeRounds_iff.mp hc with hround | ⟨-, hround⟩
  · exact Journal.notice_of_mem_round hround
  · exact Journal.notice_of_mem_round hround

namespace Reported

variable {r' : Repository}

/-- A call that a delivery makes goes to the entry that loses its state, or is about the news under
the key. -/
theorem mem_callsSince_iff (hr : Reported r s r') {c : Call} :
    c ∈ callsSince r r' ↔ c ∈ r.farewell s ∨
      r.isNews s = true ∧ c ∈ r.changeRounds (r.slot s.key) s.key := by
  rw [hr.callsSince_eq, List.mem_append]
  split <;> simp [*]

/-- Those who follow all features are told of the key of a delivery alone. -/
theorem notice_of_updates (hr : Reported r s r') {c : Call} (hc : c ∈ callsSince r r')
    (haudience : c.audience = .updates) : c.notice = .feature s.key := by
  rcases hr.mem_callsSince_iff.mp hc with hfarewell | ⟨-, hchange⟩
  · exact absurd haudience (notice_of_mem_farewell hfarewell).2
  · exact notice_of_mem_changeRounds hchange

/-- The key of a delivery is announced if there is news, or if there is nobody to be told. -/
theorem isAnnounced_key_iff (hr : Reported r s r') (hi : r.hasInitialState = true) :
    IsAnnounced r r' s.key ↔ (r.isNews s = false →
      (r.entry (r.slot s.key)).listeners.registered = [] ∧
        r.updateListeners.registered = []) := by
  have hentry : r'.listeners (.entry (r.slot s.key)) = (r.entry (r.slot s.key)).listeners :=
    hr.listeners_eq _
  have hupdates : r'.listeners .updates = r.updateListeners := hr.updateListeners_eq
  have hlookup : r'.lookup? s.key = some (r.slot s.key) := by rw [hr.lookup?_eq, if_pos rfl]
  have hannounced : IsAnnounced r r' s.key ↔
      round (.entry (r.slot s.key)) (r.entry (r.slot s.key)).listeners (.feature s.key) ⊆
          callsSince r r' ∧
        round .updates r.updateListeners (.feature s.key) ⊆ callsSince r r' := by
    unfold IsAnnounced IsTold
    rw [hlookup, hupdates]
    simp only [Option.some.injEq, forall_eq', hentry]
  rw [hannounced, hr.callsSince_eq]
  cases hn : r.isNews s with
  | true =>
    rw [if_pos rfl]
    refine iff_of_true ⟨?_, ?_⟩ (fun hno => nomatch hno)
    · exact List.subset_append_of_subset_right _ (List.subset_append_left _ _)
    · refine List.subset_append_of_subset_right _ (List.subset_append_of_subset_right _ ?_)
      rw [if_pos hi]
      exact fun _ hc => hc
  | false =>
    have hsilent : ∀ a, ∀ c ∈ r.farewell s ++ [], c.audience = a → c.notice ≠ .feature s.key := by
      intro a c hc _
      rw [List.append_nil] at hc
      exact (notice_of_mem_farewell hc).1
    rw [if_neg (by simp), Journal.round_subset_iff (hsilent _),
      Journal.round_subset_iff (hsilent _)]
    simp

/-- The key that a feature is taken away from is announced to those who follow its entry alone. -/
theorem isAnnounced_lost_iff (hr : Reported r s r') (h : Coherent r) {k : String}
    (hk : k ≠ s.key) (hlost : r.keyById? s.id = some k) :
    IsAnnounced r r' k ↔ r.updateListeners.registered = [] := by
  obtain ⟨e, hid, hlookup⟩ := h.keyById?_eq_some_iff.mp hlost
  have hkey : (r.entry e).key = k := h.key_eq hlookup
  have hfarewell : r.farewell s = round (.entry e) (r.entry e).listeners (.feature k) := by
    unfold farewell
    rw [hid]
    simp only [hkey, if_neg hk]
  have hentry : r'.listeners (.entry e) = (r.entry e).listeners := hr.listeners_eq e
  have hupdates : r'.listeners .updates = r.updateListeners := hr.updateListeners_eq
  have htold : IsTold r r' (.entry e) k := by
    unfold IsTold
    rw [hr.callsSince_eq, hfarewell, hentry]
    exact List.subset_append_left _ _
  have hsilent : ∀ c ∈ callsSince r r', c.audience = .updates → c.notice ≠ .feature k := by
    intro c hc haudience
    rw [hr.notice_of_updates hc haudience]
    exact fun hnotice => hk (Notice.feature.inj hnotice).symm
  unfold IsAnnounced
  rw [hr.lookup?_eq, if_neg hk, hlookup]
  simp only [Option.some.injEq, forall_eq', htold, true_and]
  unfold IsTold
  rw [hupdates, Journal.round_subset_iff hsilent]

end Reported

/-! ### Which changes are announced -/

/-- The state that a single delivery delivers: a deletion delivers one without its value. -/
def Operation.delivered? : Operation → Option FeatureState
  | .update s _ => some s
  | .delete d => some { d with value := none }
  | _ => none

/-- Whether an operation deletes a feature without a value by a state with a version and of the
same type. -/
def IsUnnoticed (r : Repository) : Operation → Prop
  | .delete d => ∃ p, r.stateOf? d.key = some p ∧ p.value = none ∧ p.valueType = d.valueType ∧
      d.doesExist = true
  | _ => False

/-- A change of what is under the key of an update is news. -/
theorem isNews_of_changes {r' : Repository} (hs : r'.stateOf? s.key = some s)
    (hc : Changes r r' s.key) : r.isNews s = true := by
  unfold isNews
  cases hp : r.stateOf? s.key with
  | none => rfl
  | some p =>
    unfold Changes ValuesDiffer at hc
    rw [hp, hs] at hc
    show differs p s = true
    unfold differs
    simp only [Option.any_some, Option.bind_some] at hc
    rcases hc with hexists | ⟨-, hvalue⟩ | htype
    · simp [hexists]
    · simp [hvalue]
    · simp [htype]

/-- A change of what is under the key of a deletion is no news if the deletion goes unnoticed. -/
theorem isNews_eq_false_iff {r' : Repository} {d : FeatureState}
    (hs : r'.stateOf? d.key = some (deleted d)) (hc : Changes r r' d.key) :
    r.isNews { d with value := none } = false ↔ IsUnnoticed r (.delete d) := by
  have hnews : r.isNews { d with value := none } =
      (r.stateOf? d.key).all fun p => differs p { d with value := none } := rfl
  have hunnoticed : IsUnnoticed r (.delete d) ↔ ∃ p, r.stateOf? d.key = some p ∧
      p.value = none ∧ p.valueType = d.valueType ∧ d.doesExist = true := Iff.rfl
  rw [hnews, hunnoticed]
  unfold Changes ValuesDiffer at hc
  rw [hs] at hc
  cases hp : r.stateOf? d.key with
  | none => simp
  | some p =>
    rw [hp] at hc
    have hafter : (deleted d).value = none ∧ (deleted d).valueType = d.valueType := ⟨rfl, rfl⟩
    have hexists : ({ d with value := none } : FeatureState).doesExist = d.doesExist := rfl
    simp only [Option.any_some, Option.bind_some, doesExist_deleted, hafter] at hc
    simp only [Option.all_some, differs, hexists, Bool.or_eq_false_iff, Bool.not_eq_false',
      sameOptional_none_iff, bne_eq_false_iff_eq, Option.some.injEq, exists_eq_left']
    -- if nothing but the existence can have changed, the feature existed
    have hheld : p.value = none → p.valueType = d.valueType → p.doesExist = true := by
      intro hvalue htype
      simpa [hvalue, htype] using hc
    constructor
    · rintro ⟨⟨hvalue, htype⟩, hsame⟩
      exact ⟨hvalue, htype, hsame ▸ hheld hvalue htype⟩
    · rintro ⟨hvalue, htype, hd⟩
      exact ⟨⟨hvalue, htype⟩, (hheld hvalue htype).trans hd.symm⟩

/-- What is under a key that is not the key of a delivery changes only if the feature is taken
away from it. -/
theorem keyById?_of_changes {r' : Repository} {held : FeatureState} {isIndexed : Bool}
    (hd : Delivered r held isIndexed r') (h : Coherent r) {k : String} (hk : k ≠ held.key)
    (hc : Changes r r' k) : r.keyById? held.id = some k := by
  refine Classical.not_not.mp fun hno => not_changes_of_stateOf?_eq ?_ hc
  rw [hd.stateOf?_eq h, if_neg hk, if_neg hno]

/-- An update or a deletion that changes what is under a key was taken in. -/
theorem accepts_of_changes {r' : Repository} {k : String} (hc : Changes r r' k)
    (hr : ¬ r.Accepts s force → r' = (r.updateFeature s force).1) : r.Accepts s force := by
  refine Classical.not_not.mp fun hno => not_changes_of_stateOf?_eq ?_ hc
  rw [hr hno]
  exact (quiet_updateFeature hno).stateOf?_eq k

/-- What a delivery that changes something has told, and which of its changes are no news. -/
theorem exists_reported {op : Operation} (h : Coherent r) (hs : op.delivered? = some s)
    {k : String} (hc : Changes r (r.step op) k) :
    Reported r s (r.step op) ∧ (k ≠ s.key → r.keyById? s.id = some k) ∧
      (k = s.key → (r.isNews s = false ↔ IsUnnoticed r op)) := by
  cases op with
  | update s' force =>
    obtain rfl : s' = s := Option.some.inj hs
    have ha : r.Accepts s' force := accepts_of_changes hc fun _ => rfl
    have hd := delivered_updateFeature h ha
    refine ⟨reported_updateFeature h ha, fun hk => keyById?_of_changes hd h hk hc, ?_⟩
    rintro rfl
    simp [isNews_of_changes (hd.stateOf?_key h) hc, IsUnnoticed]
  | delete d =>
    obtain rfl : { d with value := none } = s := Option.some.inj hs
    have ha : r.Accepts { d with value := none } false :=
      accepts_of_changes hc fun hno => deleteFeature_of_not_accepts hno
    have hd := delivered_deleteFeature h ha
    refine ⟨reported_deleteFeature h ha, fun hk => keyById?_of_changes hd h hk hc, ?_⟩
    rintro rfl
    exact isNews_eq_false_iff (hd.stateOf?_key h) hc
  | _ => cases hs

/-- A change that a single update or deletion makes after the first batch is announced to those
who follow the entry of the key and to those who follow all features, with two exceptions: those
who follow all features are not told of a key that lost its feature to a rename, and nobody is
told of a deletion that goes unnoticed. -/
theorem isAnnounced_iff (hr : Reachable r) (hi : r.hasInitialState = true) {op : Operation}
    (hs : op.delivered? = some s) {k : String} (hc : Changes r (r.step op) k) :
    IsAnnounced r (r.step op) k ↔
      (k ≠ s.key → r.updateListeners.registered = []) ∧
        (k = s.key → IsUnnoticed r op →
          (r.entry (r.slot k)).listeners.registered = [] ∧ r.updateListeners.registered = []) := by
  obtain ⟨hreported, hlost, hnews⟩ := exists_reported hr.coherent hs hc
  by_cases hk : k = s.key
  · subst hk
    rw [hreported.isAnnounced_key_iff hi, hnews rfl]
    simp
  · rw [hreported.isAnnounced_lost_iff hr.coherent hk (hlost hk)]
    simp [hk]

/-- A repository with a flag and a feature without a value, and one who follows all features. -/
def sampleFollowed (m n : Fin 16) : Repository :=
  after [.updateAll [sampleFlag m "a" 1, sampleUnset n "c" 1] false, .listen .updates ⟨"u", false⟩]

/-- A flag that loses its value is announced. -/
theorem isAnnounced_unset_flag :
    let r := sampleFollowed 1 2
    let unset := r.step (.update (sampleUnset 1 "a" 2) false)
    Changes r unset "a" ∧ IsAnnounced r unset "a" := by
  intro r unset
  have hc : Changes r unset "a" := Or.inr (Or.inl ⟨(fun h => nomatch h), rfl⟩)
  refine ⟨hc, (isAnnounced_iff ⟨_, rfl⟩ rfl rfl hc).mpr ⟨fun hk => absurd rfl hk, fun _ h => ?_⟩⟩
  exact h.elim

/-- Those who follow all features hear neither of the key that a renamed flag had nor of the
deletion of a feature without a value. -/
theorem changes_unannounced :
    let r := sampleFollowed 1 2
    let renamed := r.step (.update (sampleFlag 1 "b" 2) false)
    let deleted := r.step (.delete (sampleUnset 2 "c" 2))
    (Changes r renamed "a" ∧ ¬ IsAnnounced r renamed "a") ∧
      Changes r deleted "c" ∧ ¬ IsAnnounced r deleted "c" := by
  intro r renamed deleted
  refine ⟨⟨Or.inl (by decide), fun h => ?_⟩, Or.inl (by decide), fun h => ?_⟩
  · have hcall := h.2 (List.mem_singleton.mpr rfl)
    exact absurd hcall (by decide)
  · have hcall := h.2 (List.mem_singleton.mpr rfl)
    exact absurd hcall (by decide)

end FeatureFlags.Repository
