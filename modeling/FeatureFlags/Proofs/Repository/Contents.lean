import FeatureFlags.Repository.Update

/-!
# The contents of a repository

Calls of listeners change the journal and nothing else. The part of a repository that they leave
alone is its `contents`, and whatever reads only the contents is not disturbed by a call
(`entry_of_contents`, `lookup?_of_contents`, `featureById?_of_contents`).

The other lemmas here say what the two steps that deliveries are made of do to entries and
indices: making an entry for a key (`obtain`), and replacing the state of an entry (`setState`).
-/

set_option autoImplicit false

namespace FeatureFlags.Repository

/-- The part of a repository that deliveries read: its entries, both indices, and whether it was
closed. -/
structure Contents where
  /-- The entries. -/
  entries : List Entry
  /-- The index of keys. -/
  byKey : Table String EntryId
  /-- The index of identities. -/
  byId : Table Uuid EntryId
  /-- Whether the repository was closed. -/
  isClosed : Bool

/-- The contents of a repository. -/
def contents (r : Repository) : Contents := ⟨r.entries, r.byKey, r.byId, r.isClosed⟩

section Congruence

variable {r r' : Repository} (h : r'.contents = r.contents)

include h

/-- The contents tell whether a repository was closed. -/
theorem isClosed_of_contents : r'.isClosed = r.isClosed := congrArg Contents.isClosed h

/-- The contents tell the entries. -/
theorem entries_of_contents : r'.entries = r.entries := congrArg Contents.entries h

/-- The contents tell each entry. -/
theorem entry_of_contents (e : EntryId) : r'.entry e = r.entry e := by
  unfold entry
  rw [entries_of_contents h]

/-- The contents tell which entry a key leads to. -/
theorem lookup?_of_contents (key : String) : r'.lookup? key = r.lookup? key :=
  congrArg (fun c => c.byKey.get? key) h

/-- The contents tell which entry an identity leads to. -/
theorem featureById?_of_contents (id : Uuid) : r'.featureById? id = r.featureById? id :=
  congrArg (fun c => c.byId.get? id) h

end Congruence

/-- Two repositories of which the same can be read, apart from who listens to what. -/
structure Alike (r r' : Repository) : Prop where
  /-- The same numbers are in use. -/
  length_eq : r'.entries.length = r.entries.length
  /-- Keys lead to the same entries. -/
  lookup?_eq : ∀ key, r'.lookup? key = r.lookup? key
  /-- Identities lead to the same entries. -/
  featureById?_eq : ∀ id, r'.featureById? id = r.featureById? id
  /-- The entries have the same keys. -/
  key_eq : ∀ e, (r'.entry e).key = (r.entry e).key
  /-- The entries hold the same. -/
  state_eq : ∀ e, (r'.entry e).state = (r.entry e).state
  /-- Both are open or both are closed. -/
  isClosed_eq : r'.isClosed = r.isClosed

/-- Repositories with the same contents read alike. -/
theorem Alike.of_contents {r r' : Repository} (h : r'.contents = r.contents) : Alike r r' where
  length_eq := congrArg List.length (entries_of_contents h)
  lookup?_eq := lookup?_of_contents h
  featureById?_eq := featureById?_of_contents h
  key_eq e := congrArg Entry.key (entry_of_contents h e)
  state_eq e := congrArg Entry.state (entry_of_contents h e)
  isClosed_eq := isClosed_of_contents h

/-- Repositories that read alike hold the same under each key. -/
theorem Alike.stateOf?_eq {r r' : Repository} (h : Alike r r') (k : String) :
    r'.stateOf? k = r.stateOf? k := by
  simp [stateOf?, h.lookup?_eq, h.state_eq]

/-- Telling an audience leaves the contents alone. -/
@[simp] theorem contents_announce (r : Repository) (a : Audience) (n : Notice) :
    (r.announce a n).contents = r.contents := by
  unfold announce
  split <;> rfl

/-- Telling of a change leaves the contents alone. -/
@[simp] theorem contents_announceChange (r : Repository) (e : EntryId) (key : String) :
    (r.announceChange e key).contents = r.contents := by
  unfold announceChange
  simp only
  split <;> simp

/-! ### Entries -/

/-- An entry is given by its key, its state and its listeners. -/
theorem entry_eq_of {a b : Entry} (hkey : a.key = b.key) (hstate : a.state = b.state)
    (hlisteners : a.listeners = b.listeners) : a = b := by
  cases a
  cases b
  simp only at hkey hstate hlisteners
  rw [hkey, hstate, hlisteners]

/-- The number of the entry of a key, or the number that it is going to get. -/
def slot (r : Repository) (key : String) : EntryId := (r.lookup? key).getD r.entries.length

/-- The entry for a key is the one that the key leads to, if there is one. -/
theorem slot_of_lookup? {r : Repository} {key : String} {e : EntryId}
    (h : r.lookup? key = some e) : r.slot key = e := by
  unfold slot
  rw [h]
  rfl

/-- The entry that is found or made is the one for the key. -/
@[simp] theorem obtain_snd (r : Repository) (key : String) : (r.obtain key).2 = r.slot key := by
  unfold obtain slot
  cases r.lookup? key <;> rfl

/-- A key that has an entry gets no other. -/
theorem obtain_of_lookup? {r : Repository} {key : String} {e : EntryId}
    (h : r.lookup? key = some e) : r.obtain key = (r, e) := by
  unfold obtain
  rw [h]

/-- Making an entry neither closes a repository nor opens it. -/
@[simp] theorem isClosed_obtain (r : Repository) (key : String) :
    (r.obtain key).1.isClosed = r.isClosed := by
  unfold obtain
  cases r.lookup? key <;> rfl

/-- Making an entry leaves the index of identities as it is. -/
@[simp] theorem featureById?_obtain (r : Repository) (key : String) (id : Uuid) :
    (r.obtain key).1.featureById? id = r.featureById? id := by
  unfold obtain
  cases r.lookup? key <;> rfl

/-- After an entry was made its key leads to it, and other keys lead to where they led. -/
theorem lookup?_obtain (r : Repository) (key k : String) :
    (r.obtain key).1.lookup? k = if k = key then some (r.slot key) else r.lookup? k := by
  unfold obtain slot
  cases h : r.lookup? key with
  | some e =>
    by_cases hk : k = key
    · simp [hk, h]
    · simp [hk]
  | none => simp [lookup?]

/-- Making an entry changes no entry that is there. -/
theorem entry_obtain (r : Repository) (key : String) (j : EntryId) :
    (r.obtain key).1.entry j =
      if r.lookup? key = none ∧ j = r.entries.length then .blank key else r.entry j := by
  unfold obtain
  cases r.lookup? key with
  | some e => simp
  | none =>
    rcases Nat.lt_trichotomy j r.entries.length with hj | hj | hj
    · simp [entry, List.getElem?_append_left hj, Nat.ne_of_lt hj]
    · simp [entry, hj]
    · have hlong : (r.entries ++ [Entry.blank key])[j]? = none :=
        List.getElem?_eq_none (by simp; omega)
      simp [entry, hlong, List.getElem?_eq_none (Nat.le_of_lt hj), Nat.ne_of_gt hj]

/-- Making an entry leaves all who follow entries in place. -/
@[simp] theorem listeners_obtain (r : Repository) (key : String) (j : EntryId) :
    ((r.obtain key).1.entry j).listeners = (r.entry j).listeners := by
  rw [entry_obtain]
  split
  · next h => simp [h.2, entry, Entry.blank]
  · rfl

/-- Making an entry leaves those that are there as they are. -/
theorem entry_obtain_of_lt (r : Repository) (key : String) {j : EntryId}
    (hj : j < r.entries.length) : (r.obtain key).1.entry j = r.entry j := by
  rw [entry_obtain, if_neg fun h => Nat.ne_of_lt hj h.2]

/-- A number that is not in use stands for an entry that holds nothing. -/
theorem state_entry_length (r : Repository) : (r.entry r.entries.length).state = none := by
  simp [entry, Entry.blank]

/-- Making an entry leaves the state of every entry as it is, and the new one has none. -/
@[simp] theorem state_obtain (r : Repository) (key : String) (j : EntryId) :
    ((r.obtain key).1.entry j).state = (r.entry j).state := by
  rw [entry_obtain]
  split
  · next h => rw [h.2, state_entry_length, Entry.blank]
  · rfl

/-- Making an entry loses none. -/
theorem length_obtain (r : Repository) (key : String) :
    r.entries.length ≤ (r.obtain key).1.entries.length := by
  unfold obtain
  cases r.lookup? key <;> simp

/-- A key without an entry is given one more. -/
theorem length_obtain_of_none (r : Repository) {key : String} (h : r.lookup? key = none) :
    (r.obtain key).1.entries.length = r.entries.length + 1 := by
  unfold obtain
  simp [h]

/-- The state under a key is the one in its slot. -/
theorem state_slot (r : Repository) (key : String) :
    (r.entry (r.slot key)).state = r.stateOf? key := by
  unfold slot stateOf?
  cases r.lookup? key with
  | some e => rfl
  | none => exact state_entry_length r

/-- Making an entry leaves what is held under each key as it is. -/
@[simp] theorem stateOf?_obtain (r : Repository) (key k : String) :
    (r.obtain key).1.stateOf? k = r.stateOf? k := by
  unfold stateOf?
  rw [lookup?_obtain]
  by_cases hk : k = key
  · rw [if_pos hk, Option.bind_some, state_obtain, state_slot, hk]
    rfl
  · simp [hk]

/-- Replacing the state of an entry changes this entry only. -/
theorem entry_setState (r : Repository) {e : EntryId} (s : Option FeatureState)
    (he : e < r.entries.length) (j : EntryId) :
    (r.setState e s).entry j = if j = e then { r.entry e with state := s } else r.entry j := by
  unfold setState modifyEntry entry
  by_cases h : j = e
  · subst h
    simp [he]
  · simp [h, Ne.symm h]

/-- Replacing a state leaves the number of entries as it is. -/
@[simp] theorem length_setState (r : Repository) (e : EntryId) (s : Option FeatureState) :
    (r.setState e s).entries.length = r.entries.length := by
  simp [setState, modifyEntry]

end FeatureFlags.Repository
