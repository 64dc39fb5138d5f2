import FeatureFlags.Proofs.Repository.Delivery
import FeatureFlags.Proofs.Repository.History

/-!
# What an operation does to a repository

An operation other than a batch does one of three things: it takes a state in, it closes the
repository, or it is quiet, which means that at most one more entry without a state is there
afterwards. `taken?` gives the state that is taken in; `delivered_step` and `quiet_step` say what
the operation does then and otherwise. A batch is a run of single deliveries (`run_unbatch`), so
that these three cases are all that a proof about histories has to look at.

The first result of this kind is that every reachable repository is coherent.
-/

set_option autoImplicit false

namespace FeatureFlags.Repository

/-- The state that an operation leaves in an entry, if it takes one in. -/
def taken? (r : Repository) : Operation → Option FeatureState
  | .update s force => if (r.updateFeature s force).2 then some s else none
  | .delete s =>
    if (r.updateFeature { s with value := none } false).2 then some (deleted s) else none
  | _ => none

/-- `r'` is `r`, perhaps with an entry for one more key and with other listeners. -/
def Quiet (r r' : Repository) : Prop := Alike r r' ∨ ∃ key, Alike (r.obtain key).1 r'

namespace Quiet

variable {r r' : Repository}

/-- A repository with the same contents differs quietly. -/
theorem of_contents (h : r'.contents = r.contents) : Quiet r r' := Or.inl (Alike.of_contents h)

/-- Making an entry for a key is quiet. -/
theorem obtain (r : Repository) (key : String) : Quiet r (r.obtain key).1 :=
  Or.inr ⟨key, Alike.of_contents rfl⟩

/-- A quiet step neither closes a repository nor opens it. -/
theorem isClosed_eq (h : Quiet r r') : r'.isClosed = r.isClosed := by
  rcases h with h | ⟨key, h⟩
  · exact h.isClosed_eq
  · rw [h.isClosed_eq, isClosed_obtain]

/-- A quiet step leaves the index of identities as it is. -/
theorem featureById?_eq (h : Quiet r r') (id : Uuid) : r'.featureById? id = r.featureById? id := by
  rcases h with h | ⟨key, h⟩
  · exact h.featureById?_eq id
  · rw [h.featureById?_eq, featureById?_obtain]

/-- A quiet step leaves the state of every entry as it is, and a new entry has none. -/
theorem state_eq (h : Quiet r r') (e : EntryId) : (r'.entry e).state = (r.entry e).state := by
  rcases h with h | ⟨key, h⟩
  · exact h.state_eq e
  · rw [h.state_eq, state_obtain]

/-- A key that has an entry keeps it. -/
theorem lookup?_of_some (h : Quiet r r') {k : String} {e : EntryId} (hk : r.lookup? k = some e) :
    r'.lookup? k = some e := by
  rcases h with h | ⟨key, h⟩
  · rw [h.lookup?_eq, hk]
  · rw [h.lookup?_eq, lookup?_obtain]
    split
    · next heq => rw [← heq, slot_of_lookup? hk]
    · exact hk

/-- A quiet step leaves what is held under each key as it is. -/
theorem stateOf?_eq (h : Quiet r r') (k : String) : r'.stateOf? k = r.stateOf? k := by
  rcases h with h | ⟨key, h⟩
  · exact h.stateOf?_eq k
  · rw [h.stateOf?_eq, stateOf?_obtain]

/-- After a quiet step identities lead to the keys to which they led. -/
theorem keyById?_eq (h : Quiet r r') (hr : Coherent r) (id : Uuid) :
    r'.keyById? id = r.keyById? id := by
  rcases h with h | ⟨key, h⟩
  · exact h.keyById?_eq id
  · rw [h.keyById?_eq]
    unfold keyById?
    rw [featureById?_obtain]
    cases hid : r.featureById? id with
    | none => rfl
    | some e => simp [entry_obtain_of_lt r key (hr.lt_length_of_indexed hid)]

/-- A quiet step keeps a repository coherent. -/
theorem coherent (h : Quiet r r') (hr : Coherent r) : Coherent r' := by
  rcases h with h | ⟨key, h⟩
  · exact hr.of_alike h
  · exact (hr.of_obtain key).of_alike h

end Quiet

/-! ### Operations that are quiet -/

/-- Telling the readiness leaves the contents alone. -/
@[simp] theorem contents_announceReadiness (r : Repository) :
    r.announceReadiness.contents = r.contents :=
  contents_announce ..

/-- Changing who listens changes nothing that is read. -/
theorem alike_modifyListeners (r : Repository) (a : Audience)
    (f : Listeners Listener → Listeners Listener) : Alike r (r.modifyListeners a f) := by
  cases a with
  | entry i =>
    have hentry : ∀ e, (r.modifyListeners (.entry i) f).entry e = r.entry e ∨
        (r.modifyListeners (.entry i) f).entry e =
          { r.entry e with listeners := f (r.entry e).listeners } := by
      intro e
      unfold modifyListeners modifyEntry entry
      by_cases he : i = e
      · subst he
        cases h : r.entries[i]? <;> simp [h]
      · simp [he]
    constructor
    · simp [modifyListeners, modifyEntry]
    · exact fun _ => rfl
    · exact fun _ => rfl
    · intro e
      rcases hentry e with h | h <;> rw [h]
    · intro e
      rcases hentry e with h | h <;> rw [h]
    · rfl
  | _ => exact Alike.of_contents rfl

/-- A registration changes nothing that is read. -/
theorem alike_listen (r : Repository) (a : Audience) (listener : Listener) :
    Alike r (r.listen a listener) := by
  have h := alike_modifyListeners r a fun l => l.add listener
  unfold listen
  simp only
  split
  · exact ⟨h.length_eq, h.lookup?_eq, h.featureById?_eq, h.key_eq, h.state_eq, h.isClosed_eq⟩
  · exact h

/-- Asking for a feature is quiet. -/
theorem quiet_getFeature (r : Repository) (key : String) : Quiet r (r.getFeature key).1 := by
  unfold getFeature
  simp only
  split
  · exact Or.inr ⟨key, Alike.of_contents rfl⟩
  · exact Quiet.obtain r key

/-- Whoever asks for a feature is given the entry of the key. -/
@[simp] theorem getFeature_snd (r : Repository) (key : String) :
    (r.getFeature key).2 = r.slot key := by
  unfold getFeature
  simp only [obtain_snd]
  split <;> rfl

/-- A lookup shows the state under the key. -/
theorem state_getFeature (r : Repository) (key : String) :
    ((r.getFeature key).1.entry (r.getFeature key).2).state = r.stateOf? key := by
  rw [getFeature_snd, (quiet_getFeature r key).state_eq, state_slot]

/-- A delivery that is not taken in is quiet. -/
theorem quiet_updateFeature {r : Repository} {s : FeatureState} {force : Bool}
    (h : ¬ r.Accepts s force) : Quiet r (r.updateFeature s force).1 := by
  cases hc : r.isClosed with
  | true =>
    rw [updateFeature_of_closed s force hc]
    exact Quiet.of_contents rfl
  | false =>
    have href : r.Refuses s force := Classical.not_not.mp fun hno => h ⟨hc, hno⟩
    rw [updateFeature_of_refuses hc href]
    exact Quiet.obtain r s.key

/-- The end of a batch concerns the readiness and those who listen to it. -/
theorem contents_updateFeatures (r : Repository) (states : List FeatureState) (force : Bool) :
    (r.updateFeatures states force).contents =
      if r.isClosed then r.contents else (r.updateEach states force).contents := by
  unfold updateFeatures
  split
  · rfl
  · rw [contents_announce]
    split
    · rw [contents_announceReadiness]
      rfl
    · rfl

/-- A repository that is no longer ready has the contents that it had. -/
theorem contents_notReady (r : Repository) : r.notReady.contents = r.contents := by
  unfold notReady
  simp only
  split
  · rfl
  · rw [contents_announceReadiness]
    rfl

/-- An operation that takes nothing in and does not close the repository is quiet. -/
theorem quiet_step {r : Repository} {op : Operation} (hs : op.IsSingle)
    (ht : r.taken? op = none) (hc : op ≠ .close) : Quiet r (r.step op) := by
  cases op with
  | update s force =>
    refine quiet_updateFeature fun ha => ?_
    simp [taken?, (updateFeature_of_accepts ha).1] at ht
  | updateAll states force =>
    subst hs
    refine Quiet.of_contents ((contents_updateFeatures r [] force).trans ?_)
    split <;> rfl
  | delete s =>
    have ha : ¬ r.Accepts { s with value := none } false := by
      intro ha
      simp [taken?, (updateFeature_of_accepts ha).1] at ht
    show Quiet r (r.deleteFeature s)
    rw [deleteFeature_of_not_accepts ha]
    exact quiet_updateFeature ha
  | getFeature key => exact quiet_getFeature r key
  | fail => exact Quiet.of_contents (contents_announceReadiness ..)
  | notReady => exact Quiet.of_contents (contents_notReady r)
  | markEmpty => exact Quiet.of_contents (contents_announceReadiness ..)
  | close => exact absurd rfl hc
  | listen a listener => exact Or.inl (alike_listen r a listener)
  | cancel a id => exact Or.inl (alike_modifyListeners r a fun l => l.cancel id)
  | intercept i => exact Quiet.of_contents rfl
  | logErrors n => exact Quiet.of_contents rfl

/-! ### Operations that are not quiet -/

/-- An operation that takes a state in is a delivery. -/
theorem delivered_step {r : Repository} {op : Operation} {held : FeatureState} (h : Coherent r)
    (ht : r.taken? op = some held) :
    r.isClosed = false ∧ ∃ isIndexed, (isIndexed = false → held.doesExist = false) ∧
      Delivered r held isIndexed (r.step op) := by
  cases op with
  | update s force =>
    by_cases ha : (r.updateFeature s force).2 = true
    · rw [taken?, if_pos ha, Option.some.injEq] at ht
      subst ht
      have hacc := (updateFeature_snd_iff r s force).mp ha
      exact ⟨hacc.1, true, fun hi => (nomatch hi), delivered_updateFeature h hacc⟩
    · simp [taken?, ha] at ht
  | delete s =>
    by_cases ha : (r.updateFeature { s with value := none } false).2 = true
    · rw [taken?, if_pos ha, Option.some.injEq] at ht
      subst ht
      have hacc := (updateFeature_snd_iff r _ false).mp ha
      exact ⟨hacc.1, false, fun _ => doesExist_deleted s, delivered_deleteFeature h hacc⟩
    · simp [taken?, ha] at ht
  | _ => simp [taken?] at ht

/-- A closed repository finds no identity. -/
theorem featureById?_close {r : Repository} (h : Coherent r) (id : Uuid) :
    r.close.featureById? id = none := by
  unfold close
  split
  · next hc => exact h.closed hc id
  · refine (featureById?_of_contents (contents_announceReadiness _) id).trans ?_
    rfl

/-- A repository that is closed loses its keys. -/
theorem lookup?_close {r : Repository} (ho : r.isClosed = false) (k : String) :
    r.close.lookup? k = none := by
  unfold close
  rw [if_neg (by simp [ho])]
  exact lookup?_of_contents (contents_announceReadiness _) k

/-- Closing a closed repository has no effect. -/
theorem close_of_closed {r : Repository} (hc : r.isClosed = true) : r.close = r := by
  unfold close
  rw [if_pos hc]

/-- Closing keeps a repository coherent. -/
theorem coherent_close {r : Repository} (h : Coherent r) : Coherent r.close := by
  cases hc : r.isClosed with
  | true =>
    rw [close_of_closed hc]
    exact h
  | false =>
    have hlookup : ∀ k, r.close.lookup? k = none := lookup?_close hc
    constructor
    · intro k e hk
      rw [hlookup] at hk
      exact nomatch hk
    · intro k e hk
      rw [hlookup] at hk
      exact nomatch hk
    · intro id e hid
      rw [featureById?_close h] at hid
      exact nomatch hid
    · intro k e s hk
      rw [hlookup] at hk
      exact nomatch hk
    · exact fun _ => featureById?_close h

/-! ### Batches -/

/-- An update neither closes a repository nor opens it. -/
theorem isClosed_updateFeature (r : Repository) (s : FeatureState) (force : Bool) :
    (r.updateFeature s force).1.isClosed = r.isClosed := by
  by_cases ha : r.Accepts s force
  · rw [isClosed_of_contents (updateFeature_of_accepts ha).2]
    show ((r.obtain s.key).1.forgetRenamed s).isClosed = r.isClosed
    rw [isClosed_forgetRenamed, isClosed_obtain]
  · exact (quiet_updateFeature ha).isClosed_eq

/-- Updates one after the other neither close a repository nor open it. -/
theorem isClosed_updateEach (r : Repository) (states : List FeatureState) (force : Bool) :
    (r.updateEach states force).isClosed = r.isClosed := by
  induction states generalizing r with
  | nil => rfl
  | cons s states ih => exact (ih _).trans (isClosed_updateFeature r s force)

/-- A batch neither closes a repository nor opens it. -/
theorem isClosed_updateFeatures (r : Repository) (states : List FeatureState) (force : Bool) :
    (r.updateFeatures states force).isClosed = r.isClosed := by
  have hcontents := contents_updateFeatures r states force
  split at hcontents
  · exact isClosed_of_contents hcontents
  · exact (isClosed_of_contents hcontents).trans (isClosed_updateEach r states force)

/-- A batch has no effect on a closed repository. -/
theorem updateFeatures_of_closed {r : Repository} (hc : r.isClosed = true)
    (states : List FeatureState) (force : Bool) : r.updateFeatures states force = r := by
  unfold updateFeatures
  rw [if_pos hc]

/-- Updates one after the other have no effect on a closed repository. -/
theorem updateEach_of_closed {r : Repository} (hc : r.isClosed = true)
    (states : List FeatureState) (force : Bool) : r.updateEach states force = r := by
  induction states with
  | nil => rfl
  | cons s states ih =>
    unfold updateEach at ih ⊢
    rw [List.foldl_cons, updateFeature_of_closed s force hc]
    exact ih

/-- A batch is its states, one by one, and an empty batch. -/
theorem updateFeatures_eq (r : Repository) (states : List FeatureState) (force : Bool) :
    r.updateFeatures states force = (r.updateEach states force).updateFeatures [] force := by
  cases hc : r.isClosed with
  | true => rw [updateEach_of_closed hc, updateFeatures_of_closed hc, updateFeatures_of_closed hc]
  | false =>
    have hc' : (r.updateEach states force).isClosed = false := by rw [isClosed_updateEach, hc]
    unfold updateFeatures
    rw [hc, hc']
    rfl

/-- Only a close decides whether a repository is open. -/
theorem isClosed_step {r : Repository} {op : Operation} (h : Coherent r) (hc : op ≠ .close) :
    (r.step op).isClosed = r.isClosed := by
  by_cases hs : op.IsSingle
  · cases ht : r.taken? op with
    | some held =>
      obtain ⟨-, isIndexed, -, hd⟩ := delivered_step h ht
      exact hd.isClosed_eq
    | none => exact (quiet_step hs ht hc).isClosed_eq
  · cases op with
    | updateAll states force => exact isClosed_updateFeatures r states force
    | _ => exact absurd trivial hs

/-- An operation does what the single deliveries do that it is made of. -/
theorem run_unbatch_singleton (r : Repository) (op : Operation) : r.run op.unbatch = r.step op := by
  cases op with
  | updateAll states force =>
    unfold Operation.unbatch
    rw [run_append, run_map_update]
    exact (updateFeatures_eq r states force).symm
  | _ => rfl

/-- Delivering the states of all batches one by one leads to the same repository. -/
theorem run_unbatch (r : Repository) (ops : List Operation) : r.run (unbatch ops) = r.run ops := by
  induction ops generalizing r with
  | nil => rfl
  | cons op ops ih =>
    unfold unbatch at ih ⊢
    rw [List.flatMap_cons, run_append, run_unbatch_singleton, run_cons]
    exact ih (r.step op)

/-- A property that every single operation of a history keeps is kept by the history. -/
theorem run_induction {P : Repository → Prop} {ops : List Operation}
    (hstep : ∀ op ∈ unbatch ops, op.IsSingle → ∀ r, P r → P (r.step op)) {r : Repository}
    (h : P r) : P (r.run ops) := by
  rw [← run_unbatch]
  have hall : ∀ op ∈ unbatch ops, ∀ r, P r → P (r.step op) :=
    fun op hop => hstep op hop (isSingle_of_mem_unbatch hop)
  generalize unbatch ops = singles at hall
  induction singles generalizing r with
  | nil => exact h
  | cons op singles ih =>
    exact ih (hall op List.mem_cons_self r h) fun o ho => hall o (List.mem_cons_of_mem op ho)

/-! ### Coherence of reachable repositories -/

/-- A new repository is coherent. -/
theorem coherent_new : Coherent new where
  lt_length hk := nomatch hk
  key_eq hk := nomatch hk
  in_use hid := nomatch hid
  complete hk := nomatch hk
  closed _ _ := rfl

/-- An operation other than a batch keeps a repository coherent. -/
theorem coherent_step {r : Repository} {op : Operation} (hs : op.IsSingle) (h : Coherent r) :
    Coherent (r.step op) := by
  cases ht : r.taken? op with
  | some held =>
    obtain ⟨ho, isIndexed, hi, hd⟩ := delivered_step h ht
    exact hd.coherent h ho hi
  | none =>
    by_cases hc : op = .close
    · rw [hc]
      exact coherent_close h
    · exact (quiet_step hs ht hc).coherent h

/-- Every list of operations keeps a repository coherent. -/
theorem Coherent.run {r : Repository} (h : Coherent r) (ops : List Operation) :
    Coherent (r.run ops) :=
  run_induction (fun _ _ hs _ h => coherent_step hs h) h

/-- After every history, the indices fit the entries. -/
theorem coherent_after (ops : List Operation) : Coherent (after ops) := coherent_new.run ops

/-- Every repository that operations lead to is coherent. -/
theorem Reachable.coherent {r : Repository} (h : Reachable r) : Coherent r := by
  obtain ⟨ops, rfl⟩ := h
  exact coherent_after ops

end FeatureFlags.Repository
