import FeatureFlags.Repository.Update

/-!
# What is written into the journal

Telling an audience adds a round of calls to the journal, one to each registered listener
(`calls_announce`). Errors that were logged before have no influence on anything that a repository
does: an update commutes with logging errors (`updateFeatures_logErrors`).
-/

set_option autoImplicit false

namespace FeatureFlags

namespace Journal

/-- The calls to everybody who is registered in an audience, in order. -/
def round (a : Audience) (l : Listeners Listener) (notice : Notice) : List Call :=
  l.registered.map fun x => ⟨a, x.1, x.2, notice⟩

section Rounds

variable {a : Audience} {l : Listeners Listener} {notice : Notice}

/-- All calls of a round are to its audience. -/
theorem audience_of_mem_round {c : Call} (h : c ∈ round a l notice) : c.audience = a := by
  obtain ⟨x, -, rfl⟩ := List.mem_map.mp h
  rfl

/-- All calls of a round tell its notice. -/
theorem notice_of_mem_round {c : Call} (h : c ∈ round a l notice) : c.notice = notice := by
  obtain ⟨x, -, rfl⟩ := List.mem_map.mp h
  rfl

/-- Where nobody is registered a round has no calls. -/
theorem not_mem_round {c : Call} (h : l.registered = []) : c ∉ round a l notice := by
  simp [round, h]

/-- Where no call is one of a round, the round is there only if it is empty. -/
theorem round_subset_iff {calls : List Call}
    (h : ∀ c ∈ calls, c.audience = a → c.notice ≠ notice) :
    round a l notice ⊆ calls ↔ l.registered = [] := by
  constructor
  · intro hsub
    rw [List.eq_nil_iff_forall_not_mem]
    intro x hx
    exact h _ (hsub (List.mem_map.mpr ⟨x, hx, rfl⟩)) rfl rfl
  · intro hl c hc
    exact absurd hc (not_mem_round hl)

end Rounds

/-- Calling all who are registered adds one round to the calls. -/
theorem calls_callAll (j : Journal) (a : Audience) (l : Listeners Listener) (notice : Notice) :
    (j.callAll a l notice).calls = j.calls ++ round a l notice := by
  unfold callAll round
  induction l.registered generalizing j with
  | nil => simp
  | cons x xs ih =>
    rw [List.foldl_cons, ih, List.map_cons, call, List.append_assoc]
    rfl

/-- Calling and logging errors commute. -/
theorem call_logErrors (j : Journal) (n : Nat) (c : Call) :
    (j.logErrors n).call c = (j.call c).logErrors n := by
  unfold call logErrors
  cases c.listener.fails <;> simp [Nat.add_right_comm]

/-- Calling all who are registered and logging errors commute. -/
theorem callAll_logErrors (j : Journal) (n : Nat) (a : Audience) (l : Listeners Listener)
    (notice : Notice) :
    (j.logErrors n).callAll a l notice = (j.callAll a l notice).logErrors n := by
  unfold callAll
  induction l.registered generalizing j with
  | nil => rfl
  | cons x xs ih => simp only [List.foldl_cons, call_logErrors, ih]

end Journal

namespace Repository

/-! ### Calls -/

/-- An open repository that tells an audience adds one round to the calls. -/
theorem calls_announce {r : Repository} (ho : r.isClosed = false) (a : Audience)
    (notice : Notice) : (r.announce a notice).journal.calls =
      r.journal.calls ++ Journal.round a (r.listeners a) notice := by
  unfold announce
  rw [if_neg (by simp [ho])]
  exact Journal.calls_callAll ..

/-! ### The end of a batch -/

/-- What the end of a batch does: it makes the repository ready, tells this if it is news, and
tells of the batch. -/
def endBatch (r : Repository) : Repository :=
  let ready := { r with hasInitialState := true, readiness := .ready }
  let told := if !r.hasInitialState || r.readiness != .ready then ready.announceReadiness else ready
  told.announce .batches .batch

/-- A batch is its updates one after the other, and what ends it. -/
theorem updateFeatures_eq_endBatch (r : Repository) (states : List FeatureState) (force : Bool) :
    r.updateFeatures states force =
      if r.isClosed then r else (r.updateEach states force).endBatch :=
  rfl

/-! ### Errors -/

section Errors

variable (r : Repository) (n : Nat)

/-- Telling an audience and logging errors commute. -/
theorem announce_logErrors (a : Audience) (notice : Notice) :
    (r.logErrors n).announce a notice = (r.announce a notice).logErrors n := by
  have hlisteners : (r.logErrors n).listeners a = r.listeners a := by cases a <;> rfl
  unfold announce
  rw [hlisteners]
  show (if r.isClosed then _ else _) = _
  split
  · rfl
  · simp only [logErrors, Journal.callAll_logErrors]

/-- Making an entry and logging errors commute. -/
theorem obtain_logErrors (key : String) :
    (r.logErrors n).obtain key = ((r.obtain key).1.logErrors n, (r.obtain key).2) := by
  have hlookup : (r.logErrors n).lookup? key = r.lookup? key := rfl
  unfold obtain
  rw [hlookup]
  cases r.lookup? key <;> rfl

/-- Taking a feature from its former key and logging errors commute. -/
theorem forgetRenamed_logErrors (s : FeatureState) :
    (r.logErrors n).forgetRenamed s = (r.forgetRenamed s).logErrors n := by
  have hid : (r.logErrors n).featureById? s.id = r.featureById? s.id := rfl
  unfold forgetRenamed
  rw [hid]
  cases r.featureById? s.id with
  | none => rfl
  | some e =>
    show (if (r.entry e).key = s.key then _ else _) = _
    simp only
    split
    · rfl
    · exact announce_logErrors (r.setState e none) n _ _

/-- Telling of a change and logging errors commute. -/
theorem announceChange_logErrors (e : EntryId) (key : String) :
    (r.logErrors n).announceChange e key = (r.announceChange e key).logErrors n := by
  unfold announceChange
  simp only [announce_logErrors]
  show (if (r.announce (.entry e) (.feature key)).hasInitialState then _ else _) = _
  split
  · rfl
  · rfl

/-- An update and logging errors commute, and the update is accepted as before. -/
theorem updateFeature_logErrors (s : FeatureState) (force : Bool) :
    (r.logErrors n).updateFeature s force =
      ((r.updateFeature s force).1.logErrors n, (r.updateFeature s force).2) := by
  have hstore : ∀ (r : Repository) (e : EntryId), ((r.logErrors n).forgetRenamed s).store e s =
      ((r.forgetRenamed s).store e s).logErrors n := by
    intro r e
    rw [forgetRenamed_logErrors]
    rfl
  have hentry : ∀ (r : Repository) (e : EntryId), (r.logErrors n).entry e = r.entry e :=
    fun _ _ => rfl
  have hclosed : (r.logErrors n).isClosed = r.isClosed := rfl
  unfold updateFeature
  simp only [hclosed, obtain_logErrors, hentry, hstore, announceChange_logErrors]
  split
  · rfl
  · split
    · rfl
    · split <;> rfl

/-- Updates one after the other and logging errors commute. -/
theorem updateEach_logErrors (states : List FeatureState) (force : Bool) :
    (r.logErrors n).updateEach states force = (r.updateEach states force).logErrors n := by
  unfold updateEach
  induction states generalizing r with
  | nil => rfl
  | cons s states ih => simp only [List.foldl_cons, updateFeature_logErrors, ih]

/-- Ending a batch and logging errors commute. -/
theorem endBatch_logErrors : (r.logErrors n).endBatch = r.endBatch.logErrors n := by
  have hready := announce_logErrors { r with hasInitialState := true, readiness := .ready } n
  have hsame : (r.logErrors n).hasInitialState = r.hasInitialState ∧
      (r.logErrors n).readiness = r.readiness := ⟨rfl, rfl⟩
  unfold endBatch
  simp only [hsame]
  split
  · exact (congrArg (·.announce .batches .batch) (hready ..)).trans (announce_logErrors ..)
  · exact hready ..

/-- A batch and logging errors commute. -/
theorem updateFeatures_logErrors (states : List FeatureState) (force : Bool) :
    (r.logErrors n).updateFeatures states force = (r.updateFeatures states force).logErrors n := by
  have hclosed : (r.logErrors n).isClosed = r.isClosed := rfl
  simp only [updateFeatures_eq_endBatch, hclosed, updateEach_logErrors, endBatch_logErrors]
  split <;> rfl

end Errors

end Repository

end FeatureFlags
