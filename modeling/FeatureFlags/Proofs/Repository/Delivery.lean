import FeatureFlags.Proofs.Repository.Coherence

/-!
# What one delivery does to a repository

A delivered state is refused or taken in. `Refuses` says when it is refused, and `Delivered`
says what a repository holds after a state was taken in: every key leads to the entry it led to
before, the entry of the state's key holds what is left of the state, the index of identities
changes for the state's own identity only, and the single other entry that can lose its state is
the one that the index gave for this identity before. Updates and deletions are both of this
form (`delivered_updateFeature`, `delivered_deleteFeature`), so that what holds of deliveries is
proved once for both.
-/

set_option autoImplicit false

namespace FeatureFlags.Repository

/-- Whether the state that is there is kept and a delivered one refused. -/
def Refuses (r : Repository) (s : FeatureState) (force : Bool) : Prop :=
  force = false ∧ ∃ p, r.stateOf? s.key = some p ∧ isStale p s = true

/-- Whether a delivered state is taken in. -/
def Accepts (r : Repository) (s : FeatureState) (force : Bool) : Prop :=
  r.isClosed = false ∧ ¬ r.Refuses s force

/-- `r'` is `r` after a delivery that left `held` in the entry of its key. -/
structure Delivered (r : Repository) (held : FeatureState) (isIndexed : Bool)
    (r' : Repository) : Prop where
  /-- The repository is as open as before. -/
  isClosed_eq : r'.isClosed = r.isClosed
  /-- No entry is lost. -/
  length_le : r.entries.length ≤ r'.entries.length
  /-- The key has an entry. -/
  slot_lt : r.slot held.key < r'.entries.length
  /-- Keys lead to where they led before. -/
  lookup?_eq : ∀ k, r'.lookup? k = if k = held.key then some (r.slot held.key) else r.lookup? k
  /-- Only the identity of the delivered feature may lead elsewhere. -/
  featureById?_eq : ∀ id, r'.featureById? id =
    if id = held.id then (if isIndexed then some (r.slot held.key) else none)
    else r.featureById? id
  /-- Entries keep their keys. -/
  key_eq : ∀ j, (r'.entry j).key = if j = r.slot held.key then held.key else (r.entry j).key
  /-- The entry that the index gave for the identity loses its state. -/
  state_eq : ∀ j, (r'.entry j).state =
    if j = r.slot held.key then some held
    else if r.featureById? held.id = some j then none else (r.entry j).state
  /-- Whoever follows an entry goes on following it. -/
  listeners_eq : ∀ j, (r'.entry j).listeners = (r.entry j).listeners

/-! ### Taking a state in -/

/-- The repository after a state was taken in, before anybody is told. -/
def accept (r : Repository) (s : FeatureState) : Repository :=
  ((r.obtain s.key).1.forgetRenamed s).store (r.slot s.key) s

/-- A closed repository takes nothing in. -/
theorem updateFeature_of_closed {r : Repository} (s : FeatureState) (force : Bool)
    (h : r.isClosed = true) : r.updateFeature s force = (r, false) := by
  unfold updateFeature
  rw [if_pos h]

/-- The test that `updateFeature` makes is `Refuses`. -/
theorem refuses_iff (r : Repository) (s : FeatureState) (force : Bool) :
    (!force && (r.stateOf? s.key).any fun p => isStale p s) = true ↔ r.Refuses s force := by
  unfold Refuses
  cases force <;> cases r.stateOf? s.key <;> simp

/-- A state that is refused makes at most an entry for its key. -/
theorem updateFeature_of_refuses {r : Repository} {s : FeatureState} {force : Bool}
    (ho : r.isClosed = false) (h : r.Refuses s force) :
    r.updateFeature s force = ((r.obtain s.key).1, false) := by
  have ht := (refuses_iff r s force).mpr h
  unfold updateFeature
  simp [ho, state_slot, ht]

/-- An update that is taken in has the contents of `accept`: the rest of it is telling. -/
theorem updateFeature_of_accepts {r : Repository} {s : FeatureState} {force : Bool}
    (h : r.Accepts s force) : (r.updateFeature s force).2 = true ∧
      (r.updateFeature s force).1.contents = (r.accept s).contents := by
  have ht := mt (refuses_iff r s force).mp h.2
  rw [Bool.not_eq_true] at ht
  unfold updateFeature accept
  simp only [h.1, Bool.false_eq_true, if_false, obtain_snd, state_obtain, state_slot, ht, true_and]
  split <;> simp

/-- A delivery tells truly whether the state was taken in. -/
theorem updateFeature_snd_iff (r : Repository) (s : FeatureState) (force : Bool) :
    (r.updateFeature s force).2 = true ↔ r.Accepts s force := by
  constructor
  · intro h
    cases hc : r.isClosed with
    | true => simp [updateFeature_of_closed s force hc] at h
    | false =>
      refine ⟨hc, fun href => ?_⟩
      simp [updateFeature_of_refuses hc href] at h
  · exact fun h => (updateFeature_of_accepts h).1

/-! ### What is in the repository after a state was taken in -/

/-- A rename takes the state away from one entry; without a rename, nothing happens. -/
theorem forgetRenamed_cases (r : Repository) (s : FeatureState) :
    (∀ e, r.featureById? s.id = some e → (r.entry e).key = s.key) ∧
        (r.forgetRenamed s).contents = r.contents ∨
      ∃ e, r.featureById? s.id = some e ∧ (r.entry e).key ≠ s.key ∧
        (r.forgetRenamed s).contents = (r.setState e none).contents := by
  unfold forgetRenamed
  cases r.featureById? s.id with
  | none => exact Or.inl ⟨fun e he => (nomatch he), rfl⟩
  | some e =>
    simp only
    split
    · next hkey =>
      refine Or.inl ⟨fun e' he => ?_, rfl⟩
      rw [← Option.some.inj he]
      exact hkey
    · next hkey => exact Or.inr ⟨e, rfl, hkey, contents_announce ..⟩

/-- Taking a feature from its former key leaves the index of keys as it is. -/
theorem lookup?_forgetRenamed (r : Repository) (s : FeatureState) (k : String) :
    (r.forgetRenamed s).lookup? k = r.lookup? k := by
  rcases forgetRenamed_cases r s with ⟨-, h⟩ | ⟨e, -, -, h⟩
  · exact lookup?_of_contents h k
  · exact lookup?_of_contents h k

/-- Taking a feature from its former key leaves the index of identities as it is. -/
theorem featureById?_forgetRenamed (r : Repository) (s : FeatureState) (id : Uuid) :
    (r.forgetRenamed s).featureById? id = r.featureById? id := by
  rcases forgetRenamed_cases r s with ⟨-, h⟩ | ⟨e, -, -, h⟩
  · exact featureById?_of_contents h id
  · exact featureById?_of_contents h id

/-- Taking a feature from its former key neither closes a repository nor opens it. -/
theorem isClosed_forgetRenamed (r : Repository) (s : FeatureState) :
    (r.forgetRenamed s).isClosed = r.isClosed := by
  rcases forgetRenamed_cases r s with ⟨-, h⟩ | ⟨e, -, -, h⟩
  · exact isClosed_of_contents h
  · exact (isClosed_of_contents h).trans rfl

/-- Taking a feature from its former key loses no entry. -/
theorem length_forgetRenamed (r : Repository) (s : FeatureState) :
    (r.forgetRenamed s).entries.length = r.entries.length := by
  rcases forgetRenamed_cases r s with ⟨-, h⟩ | ⟨e, -, -, h⟩
  · rw [entries_of_contents h]
  · rw [entries_of_contents h, length_setState]

/-- The entry that the index gives for the identity of a state loses its own state, if it is an
entry of another key. -/
theorem entry_forgetRenamed {r : Repository} (h : Coherent r) (s : FeatureState) (j : EntryId) :
    (r.forgetRenamed s).entry j =
      if r.featureById? s.id = some j ∧ (r.entry j).key ≠ s.key then
        { r.entry j with state := none }
      else r.entry j := by
  rcases forgetRenamed_cases r s with ⟨hsame, h'⟩ | ⟨e, hid, hkey, h'⟩
  · rw [entry_of_contents h', if_neg fun hj => hj.2 (hsame j hj.1)]
  · rw [entry_of_contents h', entry_setState r none (h.lt_length_of_indexed hid), hid]
    by_cases hj : j = e
    · subst hj
      simp [hkey]
    · simp [hj, Ne.symm hj]

/-- Storing a state leads its identity to the entry, and no other one. -/
theorem featureById?_store (r : Repository) (e : EntryId) (s : FeatureState) (id : Uuid) :
    (r.store e s).featureById? id = if id = s.id then some e else r.featureById? id := by
  simp [store, featureById?, setState, modifyEntry]

/-- Storing a state changes the state of one entry, and nothing else of any. -/
theorem entry_store (r : Repository) {e : EntryId} (s : FeatureState)
    (he : e < r.entries.length) (j : EntryId) :
    (r.store e s).entry j = if j = e then { r.entry e with state := some s } else r.entry j :=
  entry_setState r (some s) he j

/-- Taking a state in is a delivery that leaves this state. -/
theorem delivered_accept {r : Repository} (h : Coherent r) (s : FeatureState) :
    Delivered r s true (r.accept s) := by
  have hr : Coherent (r.obtain s.key).1 := h.of_obtain s.key
  have hslot : r.slot s.key < ((r.obtain s.key).1.forgetRenamed s).entries.length := by
    rw [length_forgetRenamed]
    exact h.slot_lt s.key
  -- an entry that the index gives for the identity has another key exactly if it is not the slot
  have hkey : ∀ j, r.featureById? s.id = some j →
      (((r.obtain s.key).1.entry j).key ≠ s.key ↔ j ≠ r.slot s.key) := by
    intro j hid
    have hj : (r.obtain s.key).1.entry j = r.entry j :=
      entry_obtain_of_lt r s.key (h.lt_length_of_indexed hid)
    rw [hj]
    refine not_congr ⟨?_, ?_⟩
    · intro hk
      have hin := h.in_use hid
      rw [hk] at hin
      exact (slot_of_lookup? hin).symm
    · intro hs
      have hk := h.key_obtain s.key j
      rw [if_pos hs, hj] at hk
      exact hk
  have hentry : ∀ j, (r.accept s).entry j =
      if j = r.slot s.key then { (r.obtain s.key).1.entry j with state := some s }
      else if r.featureById? s.id = some j then { (r.obtain s.key).1.entry j with state := none }
      else (r.obtain s.key).1.entry j := by
    intro j
    unfold accept
    rw [entry_store _ s hslot, entry_forgetRenamed hr, entry_forgetRenamed hr,
      featureById?_obtain]
    by_cases hj : j = r.slot s.key
    · subst hj
      rw [if_pos rfl, if_pos rfl]
      split <;> rfl
    · by_cases hid : r.featureById? s.id = some j
      · simp [hj, hid, (hkey j hid).mpr hj]
      · simp [hj, hid]
  constructor
  · show ((r.obtain s.key).1.forgetRenamed s).isClosed = r.isClosed
    rw [isClosed_forgetRenamed, isClosed_obtain]
  · unfold accept store
    rw [length_setState, length_forgetRenamed]
    exact length_obtain r s.key
  · unfold accept store
    rw [length_setState]
    exact hslot
  · intro k
    exact (lookup?_forgetRenamed _ s k).trans (lookup?_obtain r s.key k)
  · intro id
    unfold accept
    rw [featureById?_store, featureById?_forgetRenamed, featureById?_obtain]
    simp
  · intro j
    rw [hentry, ← h.key_obtain s.key j]
    split
    · rfl
    · split <;> rfl
  · intro j
    rw [hentry, ← state_obtain r s.key j]
    split
    · rfl
    · split <;> rfl
  · intro j
    rw [hentry, ← listeners_obtain r s.key j]
    split
    · rfl
    · split <;> rfl

/-! ### Updates and deletions -/

namespace Delivered

variable {r r' : Repository} {held : FeatureState} {isIndexed : Bool}

/-- What a delivery did can be read off the contents. -/
theorem of_contents {r'' : Repository} (hd : Delivered r held isIndexed r')
    (hc : r''.contents = r'.contents) : Delivered r held isIndexed r'' where
  isClosed_eq := (isClosed_of_contents hc).trans hd.isClosed_eq
  length_le := by
    rw [entries_of_contents hc]
    exact hd.length_le
  slot_lt := by
    rw [entries_of_contents hc]
    exact hd.slot_lt
  lookup?_eq k := (lookup?_of_contents hc k).trans (hd.lookup?_eq k)
  featureById?_eq id := (featureById?_of_contents hc id).trans (hd.featureById?_eq id)
  key_eq j := by
    rw [entry_of_contents hc]
    exact hd.key_eq j
  state_eq j := by
    rw [entry_of_contents hc]
    exact hd.state_eq j
  listeners_eq j := by
    rw [entry_of_contents hc]
    exact hd.listeners_eq j

/-- After a delivery the key leads to its entry. -/
theorem lookup?_key (hd : Delivered r held isIndexed r') :
    r'.lookup? held.key = some (r.slot held.key) := by
  rw [hd.lookup?_eq, if_pos rfl]

/-- A key that has an entry keeps it. -/
theorem lookup?_of_some (hd : Delivered r held isIndexed r') {k : String} {e : EntryId}
    (hk : r.lookup? k = some e) : r'.lookup? k = some e := by
  rw [hd.lookup?_eq]
  split
  · next heq => rw [← heq, slot_of_lookup? hk]
  · exact hk

/-- What is held under each key after a delivery. -/
theorem stateOf?_eq (hd : Delivered r held isIndexed r') (h : Coherent r) (k : String) :
    r'.stateOf? k =
      if k = held.key then some held
      else if r.keyById? held.id = some k then none else r.stateOf? k := by
  by_cases hkey : k = held.key
  · have hk : r'.lookup? k = some (r.slot held.key) := by rw [hkey, hd.lookup?_key]
    rw [stateOf?_of_lookup? hk, hd.state_eq, if_pos rfl, if_pos hkey]
  · rw [if_neg hkey]
    have hk : r'.lookup? k = r.lookup? k := by rw [hd.lookup?_eq, if_neg hkey]
    cases hold : r.lookup? k with
    | none => simp [stateOf?, hk, hold]
    | some e =>
      have hne : e ≠ r.slot held.key := by
        rintro rfl
        exact hkey (h.eq_of_lookup?_slot hold)
      have hiff : r.keyById? held.id = some k ↔ r.featureById? held.id = some e := by
        rw [h.keyById?_eq_some_iff, hold]
        constructor
        · rintro ⟨e', hid, he⟩
          rw [Option.some.inj he]
          exact hid
        · exact fun hid => ⟨e, hid, rfl⟩
      rw [hold] at hk
      rw [stateOf?_of_lookup? hk, stateOf?_of_lookup? hold, hd.state_eq, if_neg hne]
      simp only [hiff]

/-- After a delivery the key holds what was left of the state. -/
theorem stateOf?_key (hd : Delivered r held isIndexed r') (h : Coherent r) :
    r'.stateOf? held.key = some held := by
  rw [hd.stateOf?_eq h, if_pos rfl]

/-- The key that each identity leads to after a delivery. -/
theorem keyById?_eq (hd : Delivered r held isIndexed r') (h : Coherent r) (id : Uuid) :
    r'.keyById? id =
      if id = held.id then (if isIndexed then some held.key else none) else r.keyById? id := by
  have hslot : (r'.entry (r.slot held.key)).key = held.key := by rw [hd.key_eq, if_pos rfl]
  unfold keyById?
  rw [hd.featureById?_eq]
  by_cases hid : id = held.id
  · cases isIndexed <;> simp [hid, hslot]
  · rw [if_neg hid, if_neg hid]
    cases hold : r.featureById? id with
    | none => rfl
    | some e =>
      have hkey : (r'.entry e).key = (r.entry e).key := by
        rw [hd.key_eq]
        split
        · next he =>
          have hin := h.in_use hold
          rw [he] at hin
          rw [he]
          exact (h.eq_of_lookup?_slot hin).symm
        · rfl
      simp [hkey]

/-- Coherence is kept if an existing feature is put into the index. -/
theorem coherent (hd : Delivered r held isIndexed r') (h : Coherent r) (ho : r.isClosed = false)
    (hi : isIndexed = false → held.doesExist = false) : Coherent r' where
  lt_length {k e} hk := by
    rw [hd.lookup?_eq] at hk
    split at hk
    · rw [← Option.some.inj hk]
      exact hd.slot_lt
    · exact Nat.lt_of_lt_of_le (h.lt_length hk) hd.length_le
  key_eq {k e} hk := by
    rw [hd.lookup?_eq] at hk
    rw [hd.key_eq]
    split at hk
    · next hkey => rw [if_pos (Option.some.inj hk).symm, hkey]
    · next hkey =>
      have he : e ≠ r.slot held.key := by
        rintro rfl
        exact hkey (h.eq_of_lookup?_slot hk)
      rw [if_neg he]
      exact h.key_eq hk
  in_use {id e} hid := by
    rw [hd.featureById?_eq] at hid
    rw [hd.key_eq, hd.lookup?_eq]
    by_cases he : e = r.slot held.key
    · rw [if_pos he, if_pos rfl, he]
    · rw [if_neg he]
      split at hid
      · split at hid
        · exact absurd (Option.some.inj hid).symm he
        · exact nomatch hid
      · split
        · next hkey =>
          have hin := h.in_use hid
          rw [hkey] at hin
          exact absurd (slot_of_lookup? hin).symm he
        · exact h.in_use hid
  complete {k e s} hk hs hexists := by
    rw [hd.lookup?_eq] at hk
    rw [hd.state_eq] at hs
    rw [hd.featureById?_eq]
    by_cases he : e = r.slot held.key
    · rw [if_pos he, Option.some.injEq] at hs
      cases isIndexed with
      | true => simp [← hs, he]
      | false => simp [← hs, hi rfl] at hexists
    · rw [if_neg he] at hs
      split at hs
      · exact nomatch hs
      · next hnot =>
        split at hk
        · exact absurd (Option.some.inj hk).symm he
        · have hid := h.complete hk hs hexists
          have hne : s.id ≠ held.id := by
            intro heq
            rw [heq] at hid
            exact hnot hid
          rw [if_neg hne]
          exact hid
  closed hc := by
    rw [hd.isClosed_eq, ho] at hc
    exact nomatch hc

end Delivered

/-- An update that is taken in is a delivery that leaves its state. -/
theorem delivered_updateFeature {r : Repository} {s : FeatureState} {force : Bool}
    (h : Coherent r) (ha : r.Accepts s force) :
    Delivered r s true (r.updateFeature s force).1 :=
  (delivered_accept h s).of_contents (updateFeature_of_accepts ha).2

/-- What is left of a feature in its entry when it is deleted. -/
def deleted (s : FeatureState) : FeatureState := { s with value := none, version := none }

/-- What is left of a deleted state does not exist. -/
@[simp] theorem doesExist_deleted (s : FeatureState) : (deleted s).doesExist = false := rfl

/-- A deletion that is refused does what the refused delivery does. -/
theorem deleteFeature_of_not_accepts {r : Repository} {s : FeatureState}
    (h : ¬ r.Accepts { s with value := none } false) :
    r.deleteFeature s = (r.updateFeature { s with value := none } false).1 := by
  rw [← updateFeature_snd_iff, Bool.not_eq_true] at h
  unfold deleteFeature
  split
  · next heq => rw [heq]
  · next heq => simp [heq] at h

/-- A deletion that is taken in is a delivery that leaves what is left of its state, and takes its
identity out of the index. -/
theorem delivered_deleteFeature {r : Repository} {s : FeatureState} (h : Coherent r)
    (ha : r.Accepts { s with value := none } false) :
    Delivered r (deleted s) false (r.deleteFeature s) := by
  have hu := delivered_updateFeature h ha
  have hlookup := hu.lookup?_key
  have hsnd := (updateFeature_of_accepts ha).1
  unfold deleteFeature
  split
  · next heq => simp [heq] at hsnd
  · next r' heq =>
    rw [heq] at hu hlookup
    have hobtain : r'.obtain s.key = (r', r.slot s.key) := obtain_of_lookup? hlookup
    have hstate : (r'.entry (r.slot s.key)).state = some { s with value := none } := by
      rw [hu.state_eq, if_pos rfl]
    -- the update left the state without its value in the slot; the version goes now
    have hentry : ∀ j, (r'.setState (r.slot s.key) (some (deleted s))).entry j =
        if j = r.slot s.key then { r'.entry (r.slot s.key) with state := some (deleted s) }
        else r'.entry j :=
      entry_setState r' (some (deleted s)) hu.slot_lt
    rw [hobtain]
    simp only [hstate, Option.map_some]
    constructor
    · exact hu.isClosed_eq
    · exact Nat.le_trans hu.length_le (Nat.le_of_eq (length_setState ..).symm)
    · exact Nat.lt_of_lt_of_eq hu.slot_lt (length_setState ..).symm
    · exact hu.lookup?_eq
    · intro id
      have hid := hu.featureById?_eq id
      simp only [if_true] at hid
      show (r'.byId.erase s.id).get? id = _
      rw [Table.get?_erase]
      by_cases heq' : id = s.id
      · simp [heq', deleted]
      · rw [if_neg heq'] at hid ⊢
        rw [if_neg (show id ≠ (deleted s).id from heq')]
        exact hid
    · intro j
      have hj := hu.key_eq j
      refine (congrArg Entry.key (hentry j)).trans ?_
      split
      · next he =>
        rw [he, if_pos rfl] at hj
        exact hj.trans (if_pos he).symm
      · exact hj
    · intro j
      have hj := hu.state_eq j
      refine (congrArg Entry.state (hentry j)).trans ?_
      split
      · next he => exact (if_pos he).symm
      · next he =>
        rw [if_neg he] at hj
        exact hj.trans (if_neg he).symm
    · intro j
      refine (congrArg Entry.listeners (hentry j)).trans ?_
      rw [← hu.listeners_eq j]
      split
      · next he => rw [he]
      · rfl

end FeatureFlags.Repository
