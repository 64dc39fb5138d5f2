import FeatureFlags.Proofs.Repository.Steps

/-!
# Entries as handles

Who has looked a key up holds the number of its entry, and expects to see through it whatever is
delivered for the key later on. Until the repository is closed, no operation makes another entry
for a key that has one (`lookup?_run`), and the state in an entry that is in use is the state
under its key.

The main statement puts this beside the coherence of the indices, for every history.
-/

set_option autoImplicit false

namespace FeatureFlags.Repository

/-- An operation other than a close leaves the entry of a key in place. -/
theorem lookup?_step {r : Repository} {op : Operation} {k : String} {e : EntryId}
    (h : Coherent r) (hs : op.IsSingle) (hc : op ≠ .close) (hk : r.lookup? k = some e) :
    (r.step op).lookup? k = some e := by
  cases ht : r.taken? op with
  | some held =>
    obtain ⟨-, isIndexed, -, hd⟩ := delivered_step h ht
    exact hd.lookup?_of_some hk
  | none => exact (quiet_step hs ht hc).lookup?_of_some hk

/-- Until a close, the entry of a key stays in place. -/
theorem lookup?_run {r : Repository} {ops : List Operation} {k : String} {e : EntryId}
    (h : Coherent r) (hc : ∀ op ∈ ops, op ≠ .close) (hk : r.lookup? k = some e) :
    (r.run ops).lookup? k = some e := by
  have hboth : Coherent (r.run ops) ∧ (r.run ops).lookup? k = some e := by
    refine run_induction (P := fun r => Coherent r ∧ r.lookup? k = some e)
      (fun op hop hs r h' => ?_) ⟨h, hk⟩
    have hne : op ≠ .close := by
      rintro rfl
      exact hc _ (close_mem_of_mem_unbatch hop) rfl
    exact ⟨coherent_step hs h'.1, lookup?_step h'.1 hs hne h'.2⟩
  exact hboth.2

/-- After a feature was asked for its key leads to the entry that was given. -/
theorem lookup?_getFeature (r : Repository) (key : String) :
    (r.getFeature key).1.lookup? key = some (r.slot key) := by
  have h : (r.obtain key).1.lookup? key = some (r.slot key) := by rw [lookup?_obtain, if_pos rfl]
  unfold getFeature
  simp only
  split
  · exact h
  · exact h

/-- What is taken in under a key is seen through every handle of the key. -/
theorem state_updateFeature {r : Repository} {s : FeatureState} {force : Bool} {e : EntryId}
    (h : Coherent r) (hk : r.lookup? s.key = some e) (ha : (r.updateFeature s force).2 = true) :
    ((r.updateFeature s force).1.entry e).state = some s := by
  have hd := delivered_updateFeature h ((updateFeature_snd_iff r s force).mp ha)
  rw [hd.state_eq, if_pos (slot_of_lookup? hk).symm]

/-- After every history, a feature that exists is held once and found by its identity, the index
of identities leads to entries that are in use, and a key that was looked up keeps its entry until
a close, so that the entry shows whatever is delivered for the key. -/
theorem entries_consistent (ops : List Operation) :
    (∀ k k' s s', (after ops).stateOf? k = some s → (after ops).stateOf? k' = some s' →
      s.doesExist = true → s'.doesExist = true → s.id = s'.id → k = k') ∧
    (∀ k e s, (after ops).lookup? k = some e → ((after ops).entry e).state = some s →
      s.doesExist = true → (after ops).featureById? s.id = some e) ∧
    (∀ id e, (after ops).featureById? id = some e →
      (after ops).lookup? ((after ops).entry e).key = some e) ∧
    (∀ k later, (∀ op ∈ later, op ≠ .close) →
      let e := ((after ops).getFeature k).2
      let r := after (ops ++ .getFeature k :: later)
      (r.getFeature k).2 = e ∧ (r.entry e).key = k ∧ (r.entry e).state = r.stateOf? k ∧
        ∀ s force, s.key = k → (r.updateFeature s force).2 = true →
          ((r.updateFeature s force).1.entry e).state = some s) := by
  have h := coherent_after ops
  refine ⟨?_, ?_, ?_, ?_⟩
  · intro k k' s s' hs hs' he he' hid
    exact h.key_unique hs hs' he he' hid
  · intro k e s hk hs he
    exact h.complete hk hs he
  · intro id e hid
    exact h.in_use hid
  · intro k later hlater e r
    have hr : Coherent r := coherent_after _
    have hk : r.lookup? k = some e := by
      show (after (ops ++ .getFeature k :: later)).lookup? k = some ((after ops).getFeature k).2
      rw [after_append, run_cons, getFeature_snd]
      exact lookup?_run (coherent_step trivial h) hlater (lookup?_getFeature (after ops) k)
    refine ⟨?_, hr.key_eq hk, (stateOf?_of_lookup? hk).symm, ?_⟩
    · rw [getFeature_snd, slot_of_lookup? hk]
    · rintro s force rfl ha
      exact state_updateFeature hr hk ha

end FeatureFlags.Repository
