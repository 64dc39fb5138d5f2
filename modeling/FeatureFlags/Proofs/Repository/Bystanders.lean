import FeatureFlags.Repository.Update

/-!
# What a delivery leaves alone

A delivery makes an entry, replaces states, changes the index of identities, and calls those who
follow features or entries. Whatever none of this touches, no delivery touches.
-/

set_option autoImplicit false

namespace FeatureFlags.Repository

/-- A part of a repository that the steps of a delivery do not touch. -/
structure IsBystander {α : Type} (part : Repository → α) : Prop where
  obtain_eq : ∀ r key, part (r.obtain key).1 = part r
  setState_eq : ∀ r e s, part (r.setState e s) = part r
  byId_eq : ∀ (r : Repository) (byId : Table Uuid EntryId), part { r with byId } = part r
  announce_eq : ∀ r a notice, a ≠ .readiness → part (r.announce a notice) = part r

namespace IsBystander

/-- Whatever does not depend on the entries, the indices and the journal is a bystander. -/
theorem of_frame {α : Type} {part : Repository → α}
    (h : ∀ (r : Repository) (entries : List Entry) (byKey : Table String EntryId)
      (byId : Table Uuid EntryId) (journal : Journal),
      part { r with entries, byKey, byId, journal } = part r) : IsBystander part where
  obtain_eq r key := by
    unfold Repository.obtain
    cases r.lookup? key with
    | none => exact h r _ _ r.byId r.journal
    | some e => rfl
  setState_eq r _ _ := h r _ r.byKey r.byId r.journal
  byId_eq r byId := h r r.entries r.byKey byId r.journal
  announce_eq r a notice _ := by
    unfold Repository.announce
    split
    · rfl
    · exact h r r.entries r.byKey r.byId _

variable {α : Type} {part : Repository → α} (h : IsBystander part) (r : Repository)

include h

/-- It is not touched when a feature is taken from its former key. -/
theorem forgetRenamed (s : FeatureState) : part (r.forgetRenamed s) = part r := by
  unfold Repository.forgetRenamed
  split
  · next e _ =>
    simp only
    split
    · rfl
    · rw [h.announce_eq _ _ _ (by simp), h.setState_eq]
  · rfl

/-- It is not touched when a change is told. -/
theorem announceChange (e : EntryId) (key : String) : part (r.announceChange e key) = part r := by
  unfold Repository.announceChange
  simp only
  split
  · rw [h.announce_eq _ _ _ (by simp), h.announce_eq _ _ _ (by simp)]
  · exact h.announce_eq _ _ _ (by simp)

/-- It is not touched when a state is stored. -/
theorem store (e : EntryId) (s : FeatureState) : part (r.store e s) = part r :=
  (h.byId_eq _ _).trans (h.setState_eq r e (some s))

/-- It is not touched by an update. -/
theorem updateFeature (s : FeatureState) (force : Bool) :
    part (r.updateFeature s force).1 = part r := by
  have hstored : part (((r.obtain s.key).1.forgetRenamed s).store (r.obtain s.key).2 s) =
      part r := by
    rw [h.store, h.forgetRenamed, h.obtain_eq]
  unfold Repository.updateFeature
  simp only
  split
  · rfl
  · split
    · exact h.obtain_eq ..
    · split
      · rw [h.announceChange, hstored]
      · exact hstored

/-- It is not touched by updates one after the other. -/
theorem updateEach (states : List FeatureState) (force : Bool) :
    part (r.updateEach states force) = part r := by
  induction states generalizing r with
  | nil => rfl
  | cons s states ih => exact (ih _).trans (h.updateFeature r s force)

/-- It is not touched by a deletion. -/
theorem deleteFeature (s : FeatureState) : part (r.deleteFeature s) = part r := by
  have hupdate := h.updateFeature r { s with value := none } false
  unfold Repository.deleteFeature
  split
  · next heq =>
    rw [heq] at hupdate
    exact hupdate
  · next r' heq =>
    rw [heq] at hupdate
    rw [h.byId_eq, h.setState_eq, h.obtain_eq]
    exact hupdate

end IsBystander

end FeatureFlags.Repository
