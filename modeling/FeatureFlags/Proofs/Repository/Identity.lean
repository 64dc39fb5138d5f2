import FeatureFlags.Proofs.Repository.Steps

/-!
# What the index of identities finds

The index of identities leads to the entry that a feature was delivered for last. It is not
always right: a delivery repairs the index for the identity it brings, but not for the identity
that the entry held before, and a rename empties the entry that the index gives, whatever this
entry holds by then. A delivery of another feature that does one or the other to the entry of an
identity `Displaces` it; a delivery of the feature itself `Restores` it, and so does a close,
after which the index finds nothing.

The main statement is that these are the only ways: what the index gives for an identity holds a
feature of this identity exactly if in the history so far, batches taken apart, every operation
that displaced it was followed by one that restored it.
-/

set_option autoImplicit false

namespace FeatureFlags.Repository

/-- Whether the index is right about an identity: if it leads to an entry, this entry holds a
feature of the identity. -/
def Finds (r : Repository) (id : Uuid) : Prop :=
  ∀ e, r.featureById? id = some e → (r.entry e).featureId = some id

/-- Whether an operation takes in another feature, either under the key of the entry that the
index gives for the identity, or as a rename of this entry. -/
def Displaces (r : Repository) (op : Operation) (id : Uuid) : Prop :=
  ∃ s e, r.taken? op = some s ∧ s.id ≠ id ∧ r.featureById? id = some e ∧
    (r.lookup? s.key = some e ∨ r.featureById? s.id = some e)

/-- Whether an operation takes in the feature of the identity, or closes the repository. -/
def Restores (r : Repository) (op : Operation) (id : Uuid) : Prop :=
  op = .close ∨ ∃ s, r.taken? op = some s ∧ s.id = id

/-- Whether some operation of a run restores an identity. -/
def IsRestored (id : Uuid) : Repository → List Operation → Prop
  | _, [] => False
  | r, op :: ops => Restores r op id ∨ IsRestored id (r.step op) ops

/-- Whether every operation of a run that displaces an identity is followed by one that
restores it. -/
def IsSettled (id : Uuid) : Repository → List Operation → Prop
  | _, [] => True
  | r, op :: ops =>
    (Displaces r op id → IsRestored id (r.step op) ops) ∧ IsSettled id (r.step op) ops

/-- No operation displaces what it restores. -/
theorem not_displaces_of_restores {r : Repository} {op : Operation} {id : Uuid}
    (h : Restores r op id) : ¬ Displaces r op id := by
  rintro ⟨s, e, hs, hne, -, -⟩
  rcases h with rfl | ⟨s', hs', hid⟩
  · exact nomatch hs
  · rw [hs, Option.some.injEq] at hs'
    rw [hs'] at hne
    exact hne hid

section Delivery

variable {r r' : Repository} {held : FeatureState} {isIndexed : Bool} {id : Uuid}

/-- The index is right about the identity that was delivered. -/
theorem Delivered.finds (hd : Delivered r held isIndexed r') : Finds r' held.id := by
  intro e he
  rw [hd.featureById?_eq, if_pos rfl] at he
  cases isIndexed with
  | true =>
    unfold Entry.featureId
    rw [← Option.some.inj he, hd.state_eq]
    simp
  | false => exact nomatch he

/-- About another identity the index is right if it was so before, and its entry was spared. -/
theorem Delivered.finds_iff (hd : Delivered r held isIndexed r') (h : Coherent r)
    (hne : held.id ≠ id) :
    Finds r' id ↔ Finds r id ∧ ∀ e, r.featureById? id = some e →
      r.lookup? held.key ≠ some e ∧ r.featureById? held.id ≠ some e := by
  have hindex : r'.featureById? id = r.featureById? id := by
    rw [hd.featureById?_eq, if_neg (Ne.symm hne)]
  constructor
  · intro hf
    -- a right index leads neither to the new state nor to an entry that was emptied
    have hspared : ∀ e, r.featureById? id = some e →
        e ≠ r.slot held.key ∧ r.featureById? held.id ≠ some e := by
      intro e he
      have hheld := hf e (hindex.trans he)
      unfold Entry.featureId at hheld
      rw [hd.state_eq] at hheld
      split at hheld
      · exact absurd (Option.some.inj hheld) hne
      · next hslot =>
        split at hheld
        · exact nomatch hheld
        · next hother => exact ⟨hslot, hother⟩
    refine ⟨fun e he => ?_, fun e he => ⟨fun hk => ?_, (hspared e he).2⟩⟩
    · have hheld := hf e (hindex.trans he)
      unfold Entry.featureId at hheld ⊢
      rw [hd.state_eq, if_neg (hspared e he).1, if_neg (hspared e he).2] at hheld
      exact hheld
    · exact (hspared e he).1 (slot_of_lookup? hk).symm
  · rintro ⟨hf, hspared⟩ e he
    rw [hindex] at he
    have hslot : e ≠ r.slot held.key := by
      rintro rfl
      exact (hspared _ he).1 (h.lookup?_slot (h.in_use he))
    unfold Entry.featureId
    rw [hd.state_eq, if_neg hslot, if_neg (hspared e he).2]
    exact hf e he

end Delivery

/-- A quiet step finds the identities that were found before. -/
theorem Quiet.finds_iff {r r' : Repository} {id : Uuid} (h : Quiet r r') :
    Finds r' id ↔ Finds r id := by
  unfold Finds Entry.featureId
  simp only [h.featureById?_eq, h.state_eq]

/-- When the index is right about an identity after an operation. -/
theorem finds_step_iff {r : Repository} {op : Operation} (h : Coherent r) (hs : op.IsSingle)
    (id : Uuid) : Finds (r.step op) id ↔ Restores r op id ∨ Finds r id ∧ ¬ Displaces r op id := by
  cases ht : r.taken? op with
  | some held =>
    obtain ⟨-, isIndexed, -, hd⟩ := delivered_step h ht
    by_cases hid : held.id = id
    · have hf : Finds (r.step op) id := hid ▸ hd.finds
      exact iff_of_true hf (Or.inl (Or.inr ⟨held, ht, hid⟩))
    · have hnot : ¬ Restores r op id := by
        rintro (rfl | ⟨s, hs', hs''⟩)
        · exact nomatch ht
        · rw [ht, Option.some.injEq] at hs'
          rw [← hs'] at hs''
          exact hid hs''
      -- another identity loses its entry to the key of the state, or is emptied as its former one
      have hiff : ¬ Displaces r op id ↔ ∀ e, r.featureById? id = some e →
          r.lookup? held.key ≠ some e ∧ r.featureById? held.id ≠ some e := by
        constructor
        · intro hn e he
          exact ⟨fun hk => hn ⟨held, e, ht, hid, he, Or.inl hk⟩,
            fun hk => hn ⟨held, e, ht, hid, he, Or.inr hk⟩⟩
        · rintro hspared ⟨s, e, hs', -, he, hor⟩
          rw [ht, Option.some.injEq] at hs'
          subst hs'
          exact hor.elim (hspared e he).1 (hspared e he).2
      rw [hd.finds_iff h hid, hiff, or_iff_right hnot]
  | none =>
    have hnot : ¬ Displaces r op id := by
      rintro ⟨s, e, hs', -⟩
      rw [ht] at hs'
      exact nomatch hs'
    by_cases hc : op = .close
    · subst hc
      refine iff_of_true (fun e he => ?_) (Or.inl (Or.inl rfl))
      rw [show r.step .close = r.close from rfl, featureById?_close h] at he
      exact nomatch he
    · have hno : ¬ Restores r op id := by
        rintro (hclose | ⟨s, hs', -⟩)
        · exact hc hclose
        · rw [ht] at hs'
          exact nomatch hs'
      rw [(quiet_step hs ht hc).finds_iff, or_iff_right hno]
      exact (and_iff_left hnot).symm

/-- What the index is right about after a run, by induction on the run. -/
theorem finds_run_iff {ops : List Operation} (hops : ∀ op ∈ ops, op.IsSingle) {r : Repository}
    (h : Coherent r) (id : Uuid) :
    Finds (r.run ops) id ↔ (Finds r id ∨ IsRestored id r ops) ∧ IsSettled id r ops := by
  induction ops generalizing r with
  | nil => simp [IsRestored, IsSettled]
  | cons op ops ih =>
    have hop : op.IsSingle := hops op List.mem_cons_self
    have hrest : ∀ o ∈ ops, o.IsSingle := fun o ho => hops o (List.mem_cons_of_mem op ho)
    have hnot : Restores r op id → ¬ Displaces r op id := not_displaces_of_restores
    rw [run_cons, ih hrest (coherent_step hop h), finds_step_iff h hop, IsRestored, IsSettled]
    constructor
    · rintro ⟨(hrestores | ⟨hfinds, hspared⟩) | hlater, hsettled⟩
      · exact ⟨Or.inr (Or.inl hrestores), fun hd => absurd hd (hnot hrestores), hsettled⟩
      · exact ⟨Or.inl hfinds, fun hd => absurd hd hspared, hsettled⟩
      · exact ⟨Or.inr (Or.inr hlater), fun _ => hlater, hsettled⟩
    · rintro ⟨hbefore, hd, hsettled⟩
      refine ⟨?_, hsettled⟩
      by_cases hdisp : Displaces r op id
      · exact Or.inr (hd hdisp)
      · rcases hbefore with hfinds | hrestores | hlater
        · exact Or.inl (Or.inr ⟨hfinds, hdisp⟩)
        · exact Or.inl (Or.inl hrestores)
        · exact Or.inr hlater

/-- After every history, what the index gives for an identity holds a feature of this identity
exactly if all that displaced it was followed by something that restored it. -/
theorem featureById?_holds_iff (ops : List Operation) (id : Uuid) :
    (∀ e, (after ops).featureById? id = some e → ((after ops).entry e).featureId = some id) ↔
      IsSettled id new (unbatch ops) := by
  have hnew : Finds new id := fun e he => nomatch he
  have hops : ∀ op ∈ unbatch ops, op.IsSingle := fun op => isSingle_of_mem_unbatch
  have hiff := finds_run_iff hops coherent_new id
  rw [run_unbatch] at hiff
  exact hiff.trans (and_iff_right (Or.inl hnew))

/-- A key that is given to a second feature leaves the first one's identity in the index: it leads
to the second one. -/
theorem featureById?_misleads :
    ¬ ∀ (ops : List Operation) (id : Uuid) (e : EntryId),
      (after ops).featureById? id = some e → ((after ops).entry e).featureId = some id := by
  intro h
  have hwrong := h [.update (sampleFlag 1 "a" 1) false, .update (sampleFlag 2 "a" 2) false]
    (sampleId 1) 0 (by decide)
  exact absurd hwrong (by decide)

end FeatureFlags.Repository
