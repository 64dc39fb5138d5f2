import FeatureFlags.Proofs.Repository.Contents

/-!
# Coherence of the indices

A repository is coherent if its two indices fit its entries: a key leads to an entry of this
key, the index of identities leads only to entries that are in use, and it leads to every entry
that holds a feature that exists. Coherence says nothing of entries that the index of identities
leads to and that hold another feature, or none.

In a coherent repository the index of identities can be read as a map from identities to keys,
`keyById?`, and no feature that exists is held twice (`Coherent.key_unique`).
-/

set_option autoImplicit false

namespace FeatureFlags.Repository

/-- The key that the index of identities leads to. -/
def keyById? (r : Repository) (id : Uuid) : Option String :=
  (r.featureById? id).map fun e => (r.entry e).key

/-- In repositories that read alike identities lead to the same keys. -/
theorem Alike.keyById?_eq {r r' : Repository} (h : Alike r r') (id : Uuid) :
    r'.keyById? id = r.keyById? id := by
  simp [keyById?, h.featureById?_eq, h.key_eq]

/-- The indices of a repository fit its entries. -/
structure Coherent (r : Repository) : Prop where
  /-- Keys lead to entries that were made. -/
  lt_length : ∀ {k : String} {e : EntryId}, r.lookup? k = some e → e < r.entries.length
  /-- A key leads to an entry of this key. -/
  key_eq : ∀ {k : String} {e : EntryId}, r.lookup? k = some e → (r.entry e).key = k
  /-- An identity leads to an entry that is in use. -/
  in_use : ∀ {id : Uuid} {e : EntryId},
    r.featureById? id = some e → r.lookup? (r.entry e).key = some e
  /-- The identity of a feature that exists leads to its entry. -/
  complete : ∀ {k : String} {e : EntryId} {s : FeatureState}, r.lookup? k = some e →
    (r.entry e).state = some s → s.doesExist = true → r.featureById? s.id = some e
  /-- A closed repository knows no identity. -/
  closed : r.isClosed = true → ∀ id, r.featureById? id = none

/-- What is held under a key is the state of the entry that it leads to. -/
theorem stateOf?_of_lookup? {r : Repository} {key : String} {e : EntryId}
    (h : r.lookup? key = some e) : r.stateOf? key = (r.entry e).state := by
  unfold stateOf?
  rw [h]
  rfl

/-- A state under a key is in the entry of the key. -/
theorem exists_lookup?_of_stateOf? {r : Repository} {key : String} {s : FeatureState}
    (h : r.stateOf? key = some s) : ∃ e, r.lookup? key = some e ∧ (r.entry e).state = some s :=
  Option.bind_eq_some_iff.mp h

namespace Coherent

variable {r r' : Repository}

/-- Coherence is a matter of what can be read. -/
theorem of_alike (h : Coherent r) (ha : Alike r r') : Coherent r' where
  lt_length hk := by
    rw [ha.lookup?_eq] at hk
    rw [ha.length_eq]
    exact h.lt_length hk
  key_eq hk := by
    rw [ha.lookup?_eq] at hk
    rw [ha.key_eq]
    exact h.key_eq hk
  in_use hid := by
    rw [ha.featureById?_eq] at hid
    rw [ha.key_eq, ha.lookup?_eq]
    exact h.in_use hid
  complete hk hs hexists := by
    rw [ha.lookup?_eq] at hk
    rw [ha.state_eq] at hs
    rw [ha.featureById?_eq]
    exact h.complete hk hs hexists
  closed hc id := by
    rw [ha.isClosed_eq] at hc
    rw [ha.featureById?_eq]
    exact h.closed hc id

/-- Two keys that lead to one entry are equal. -/
theorem lookup?_inj (h : Coherent r) {k k' : String} {e : EntryId} (hk : r.lookup? k = some e)
    (hk' : r.lookup? k' = some e) : k = k' :=
  (h.key_eq hk).symm.trans (h.key_eq hk')

/-- The index of identities leads to entries that are there. -/
theorem lt_length_of_indexed (h : Coherent r) {id : Uuid} {e : EntryId}
    (hid : r.featureById? id = some e) : e < r.entries.length :=
  h.lt_length (h.in_use hid)

/-- No feature that exists is held under two keys. -/
theorem key_unique (h : Coherent r) {k k' : String} {s s' : FeatureState}
    (hs : r.stateOf? k = some s) (hs' : r.stateOf? k' = some s') (he : s.doesExist = true)
    (he' : s'.doesExist = true) (hid : s.id = s'.id) : k = k' := by
  obtain ⟨e, hk, hstate⟩ := exists_lookup?_of_stateOf? hs
  obtain ⟨e', hk', hstate'⟩ := exists_lookup?_of_stateOf? hs'
  have hi : r.featureById? s.id = some e := h.complete hk hstate he
  have hi' : r.featureById? s'.id = some e' := h.complete hk' hstate' he'
  rw [hid, hi', Option.some.injEq] at hi
  rw [hi] at hk'
  exact h.lookup?_inj hk hk'

/-- An identity leads to a key exactly if both lead to one entry. -/
theorem keyById?_eq_some_iff (h : Coherent r) {id : Uuid} {k : String} :
    r.keyById? id = some k ↔ ∃ e, r.featureById? id = some e ∧ r.lookup? k = some e := by
  unfold keyById?
  rw [Option.map_eq_some_iff]
  constructor
  · rintro ⟨e, hid, rfl⟩
    exact ⟨e, hid, h.in_use hid⟩
  · rintro ⟨e, hid, hk⟩
    exact ⟨e, hid, h.key_eq hk⟩

/-- The index of identities is the map to keys, followed by the index of keys. -/
theorem featureById?_eq (h : Coherent r) (id : Uuid) :
    r.featureById? id = (r.keyById? id).bind r.lookup? := by
  unfold keyById?
  cases hid : r.featureById? id with
  | none => rfl
  | some e => exact (h.in_use hid).symm

/-- The entry for a key is there after it was obtained. -/
theorem slot_lt (h : Coherent r) (key : String) : r.slot key < (r.obtain key).1.entries.length := by
  unfold slot
  cases hk : r.lookup? key with
  | some e => exact Nat.lt_of_lt_of_le (h.lt_length hk) (length_obtain r key)
  | none =>
    rw [length_obtain_of_none r hk]
    exact Nat.lt_succ_self _

/-- The slot of a key is taken by no other key. -/
theorem lookup?_slot (h : Coherent r) {k key : String} (hk : r.lookup? k = some (r.slot key)) :
    r.lookup? key = some (r.slot key) := by
  cases hkey : r.lookup? key with
  | some e => rw [slot_of_lookup? hkey]
  | none =>
    have hlt : r.slot key < r.entries.length := h.lt_length hk
    rw [slot, hkey] at hlt
    exact absurd hlt (Nat.lt_irrefl _)

/-- No other key leads to the entry for a key. -/
theorem eq_of_lookup?_slot (h : Coherent r) {k key : String}
    (hk : r.lookup? k = some (r.slot key)) : k = key :=
  h.lookup?_inj hk (h.lookup?_slot hk)

/-- Making an entry writes its key into it, and leaves the keys of others. -/
theorem key_obtain (h : Coherent r) (key : String) (j : EntryId) :
    ((r.obtain key).1.entry j).key = if j = r.slot key then key else (r.entry j).key := by
  rw [entry_obtain]
  unfold slot
  cases hk : r.lookup? key with
  | some e =>
    by_cases hj : j = e
    · subst hj
      simp [h.key_eq hk]
    · simp [hj]
  | none =>
    by_cases hj : j = r.entries.length <;> simp [hj, Entry.blank]

/-- Making an entry keeps a repository coherent. -/
theorem of_obtain (h : Coherent r) (key : String) : Coherent (r.obtain key).1 where
  lt_length {k e} hk := by
    rw [lookup?_obtain] at hk
    split at hk
    · rw [← Option.some.inj hk]
      exact h.slot_lt key
    · exact Nat.lt_of_lt_of_le (h.lt_length hk) (length_obtain r key)
  key_eq {k e} hk := by
    rw [lookup?_obtain] at hk
    rw [h.key_obtain]
    split at hk
    · next hkey => rw [if_pos (Option.some.inj hk).symm, hkey]
    · next hkey =>
      have he : e ≠ r.slot key := by
        rintro rfl
        exact hkey (h.eq_of_lookup?_slot hk)
      rw [if_neg he]
      exact h.key_eq hk
  in_use {id e} hid := by
    rw [featureById?_obtain] at hid
    -- what is indexed was there before, so that it is not the new entry
    rw [entry_obtain_of_lt r key (h.lt_length_of_indexed hid), lookup?_obtain]
    split
    · next hkey => rw [← hkey, slot_of_lookup? (h.in_use hid)]
    · exact h.in_use hid
  complete {k e s} hk hs hexists := by
    rw [lookup?_obtain] at hk
    rw [state_obtain] at hs
    rw [featureById?_obtain]
    split at hk
    · next hkey =>
      rw [← Option.some.inj hk, state_slot] at hs
      obtain ⟨e', hk', hs'⟩ := exists_lookup?_of_stateOf? hs
      rw [← Option.some.inj hk, slot_of_lookup? hk']
      exact h.complete hk' hs' hexists
    · exact h.complete hk hs hexists
  closed hc id := by
    rw [isClosed_obtain] at hc
    rw [featureById?_obtain]
    exact h.closed hc id

end Coherent

end FeatureFlags.Repository
